import HttpStub.Url.Percent
import HttpStub.Url.Scheme

/-!
# Paths

The path of a URL with a host is a list of segments. A text is taken apart at its slashes, and its
pieces are walked along: each is encoded and becomes a segment, one dot stays where it is, and two
dots go back a segment, but not over a drive. At the end either leaves an empty segment. Other URLs
have a path that is one plain text.

The path of a local file may begin with a drive. A bar is then as good as its colon, and empty
segments at the front are left out.
-/

namespace HttpStub.Url

/-- The characters between two slashes, in encoded form, as `Segment.ofPiece` makes them. -/
abbrev Segment := List Char

namespace Segment

/-- One dot, be it encoded or not; `Walk.step` stays where it is. -/
def isDot (s : Segment) : Bool :=
  [['.'], ['%', '2', 'e']].contains (s.map Char.toLower)

/-- Two dots, each of them encoded or not; `Walk.step` goes back. -/
def isDotDot (s : Segment) : Bool :=
  [['.', '.'], ['.', '%', '2', 'e'], ['%', '2', 'e', '.'], ['%', '2', 'e', '%', '2', 'e']].contains
    (s.map Char.toLower)

/-- Whether the character may follow the letter of a drive. -/
def isDriveMark (c : Char) : Bool :=
  c = ':' || c = '|'

/-- The drive that a segment spells, with its letter and a colon in place of any `isDriveMark`. -/
def drive? : Segment → Option Segment
  | [c, mark] => if c.isAlpha && isDriveMark mark then some [c, ':'] else none
  | _ => none

/-- Whether `Walk.back` cannot go over the segment: it is a drive, or a backslash follows one. -/
def isFixed : Segment → Bool
  | c :: mark :: rest => c.isAlpha && isDriveMark mark && (rest.isEmpty || rest.head? = some '\\')
  | _ => false

/-- The segment of a piece of text between two slashes: what is `seen` of it, encoded by
`Percent.path`. -/
def ofPiece (piece : List Char) : Segment :=
  Percent.encode Percent.path (seen piece)

/-- A drive that is parted from the text behind it by nothing but characters that are not seen. -/
def partDrive? (piece : List Char) : Option (Segment × Segment) := do
  let (letter, rest) ← takeSeen? piece
  let (mark, rest) ← takeSeen? rest
  if letter.isAlpha ∧ mark = ':' ∧ rest.head?.any isUnseen ∧ seen rest ≠ [] then
    some ([letter, mark], ofPiece rest)
  else none

end Segment

/-- A walk along the pieces of a text, one `Walk.step` for each. -/
structure Walk where
  /-- The segments so far, in encoded form. -/
  segments : List Segment
  /-- Whether the first of them is a drive of the machine itself. -/
  onDrive : Bool

namespace Walk

/-- A walk that has not begun, and has no segments. -/
def start : Walk := ⟨[], false⟩

/-- The first segment of a local path, which may be a drive by `Segment.partDrive?` or
`Segment.drive?`. -/
def enter (piece : List Char) : Walk :=
  match Segment.partDrive? piece with
  | some (drive, rest) => ⟨[drive, rest], false⟩
  | none =>
    match (Segment.ofPiece piece).drive? with
    | some drive => ⟨[drive], true⟩
    | none => ⟨[Segment.ofPiece piece], false⟩

/-- Goes back a segment, unless the last one is `Segment.isFixed`. -/
def back (w : Walk) : Walk :=
  if w.segments.getLast?.any Segment.isFixed then w
  else { w with segments := w.segments.dropLast }

/-- Puts a segment at the end. -/
def push (w : Walk) (s : Segment) : Walk :=
  { w with segments := w.segments ++ [s] }

/-- Walks along one piece. Dots are recognised in encoded form too, so it is the segment of the
piece that `isDot` and `isDotDot` look at. -/
def step (scheme : Scheme) (w : Walk) (piece : List Char) : Walk :=
  let s := Segment.ofPiece piece
  if s.isDotDot then w.back
  else if s.isDot then w
  -- Only the first segment of a local path may be a drive.
  else if scheme.isFile && w.segments.isEmpty then enter piece
  else w.push s

/-- Local paths do not begin with empty segments, unless they have no other. -/
def withoutEmptyFront (w : Walk) : Walk :=
  match w.segments.dropWhile List.isEmpty with
  | [] => { w with segments := [[]] }
  | segments => { w with segments }

/-- Walks along all pieces of a text by `step`, from `start` on. -/
def along (scheme : Scheme) (text : List Char) : Walk :=
  let pieces := text.splitOnP scheme.isSeparator
  let walked := pieces.foldl (step scheme) start
  -- Dots at the end name a folder, which an empty segment stands for.
  let endsInDots := (pieces.getLast?.map Segment.ofPiece).any fun s => s.isDot || s.isDotDot
  let ended := if endsInDots then walked.push [] else walked
  if scheme.isFile then ended.withoutEmptyFront else ended

/-- Pieces none of which is dots are put at the end by `step`, all of them, unless the scheme is
that of local files. -/
theorem foldl_step_of_forall {scheme : Scheme} (hscheme : scheme.isFile = false)
    {pieces : List (List Char)}
    (hpieces : ∀ p ∈ pieces,
      (Segment.ofPiece p).isDot = false ∧ (Segment.ofPiece p).isDotDot = false)
    (w : Walk) :
    pieces.foldl (step scheme) w =
      { w with segments := w.segments ++ pieces.map Segment.ofPiece } := by
  -- Induction on the pieces, with the segments so far as the state.
  induction pieces generalizing w with
  | nil => simp
  | cons p pieces ih =>
    obtain ⟨hdot, hdots⟩ := hpieces p List.mem_cons_self
    have hstep : step scheme w p = w.push (Segment.ofPiece p) := by
      simp [step, hdot, hdots, hscheme]
    rw [List.foldl_cons, hstep, ih fun q hq => hpieces q (List.mem_cons_of_mem _ hq)]
    simp [push]

end Walk

/-- The path of a URL, in one of two forms that `Url.setPath` keeps. -/
inductive Path where
  /-- One text, of a URL without host. -/
  | plain (text : List Char)
  /-- A list of segments, of a URL with host or with a slash behind its scheme. -/
  | segments (list : List Segment)
deriving DecidableEq

namespace Path

/-- The text behind the slash that a path begins with. -/
def withoutRoot (scheme : Scheme) (text : List Char) : List Char :=
  match takeSeen? text with
  | some (c, rest) => if scheme.isSeparator c then rest else text
  | none => text

/-- The path of a text behind a host, walked along by `Walk.along`. Only a path of the web has a
segment even if the text is empty. -/
def ofText (scheme : Scheme) (text : List Char) : Path :=
  if text = [] ∧ ¬ scheme.isSpecial then .segments []
  else .segments (Walk.along scheme (withoutRoot scheme text)).segments

/-- The path of a text that is kept in one piece, encoded by `Percent.controls`. -/
def plainOfText (text : List Char) : Path :=
  .plain (Percent.encode Percent.controls text)

/-- The text of a path: every segment behind a slash, as `Url.text` has it. -/
def chars : Path → List Char
  | .plain text => text
  | .segments list => list.flatMap ('/' :: ·)

end Path

end HttpStub.Url
