import HttpStub.Json.Read.Basic

/-!
# Reading arrays and objects

The loops over items and members, from behind the opening bracket to behind the closing one. They
are told how to read one item or member. A `strict` loop names a comma before the closing bracket as
such; the other leaves it to the item or key that is missing. The number that counts the rounds
starts at the length of the text, and every round takes a comma at least.
-/

namespace HttpStub.Json

variable {α σ : Type}

/-- Reads the items behind the first, each behind a comma. -/
def moreItems (strict : Bool) (item : Reader α) : Nat → Reader (List α)
  | 0, _ => malformedBefore .endInList []
  | rounds + 1, cs =>
    match skipSpace cs with
    | [] => malformedBefore .endInList []
    | c :: rest =>
      if c = ']' then .ok ([], rest)
      else if c = ',' then
        let rest := skipSpace rest
        -- Without `strict` the bracket is met where the next item should begin.
        if strict && rest.head? = some ']' then malformedAt .trailingComma rest
        else do
          let (a, unread) ← item rest
          let (as, unread) ← moreItems strict item rounds unread
          return (a :: as, unread)
      else malformedAt .expectedCommaInList (c :: rest)

/-- Reads the items of an array, then by `moreItems` those behind the first. -/
def items (strict : Bool) (item : Reader α) : Reader (List α) := fun cs =>
  match skipSpace cs with
  | [] => malformedBefore .endInList []
  | c :: rest =>
    if c = ']' then .ok ([], rest)
    else do
      let (a, unread) ← item (c :: rest)
      -- Each further item takes a comma off the text, so its length is rounds enough.
      let (as, unread) ← moreItems strict item unread.length unread
      return (a :: as, unread)

/-- Reads the members behind the first; `member` starts behind the quote that opens the key, and
passes on what has been gathered so far. -/
def moreMembers (strict : Bool) (member : σ → Reader σ) : Nat → σ → Reader σ
  | 0, _, _ => malformedBefore .endInObject []
  | rounds + 1, gathered, cs =>
    match skipSpace cs with
    | [] => malformedBefore .endInObject []
    | c :: rest =>
      if c = '\x7d' then .ok (gathered, rest)
      else if c = ',' then
        match skipSpace rest with
        -- What is missing is a value to the one loop and a key to the other.
        | [] => malformedBefore (if strict then .endInValue else .endInObject) []
        | d :: rest =>
          if d = '"' then do
            let (gathered, unread) ← member gathered rest
            moreMembers strict member rounds gathered unread
          else if strict && d = '\x7d' then malformedAt .trailingComma (d :: rest)
          else malformedAt .keyNotString (d :: rest)
      else malformedAt .expectedCommaInObject (c :: rest)

/-- Reads the members of an object, then by `moreMembers` those behind the first. -/
def members (strict : Bool) (member : σ → Reader σ) (start : σ) : Reader σ := fun cs =>
  match skipSpace cs with
  | [] => malformedBefore .endInObject []
  | c :: rest =>
    if c = '\x7d' then .ok (start, rest)
    else if c = '"' then do
      let (gathered, unread) ← member start rest
      moreMembers strict member unread.length gathered unread
    else malformedAt .keyNotString (c :: rest)

end HttpStub.Json
