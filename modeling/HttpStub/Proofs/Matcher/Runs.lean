import Mathlib.Data.List.Chain
import HttpStub.Matcher.Build

/-!
# The shape of chains

The links of a chain fall into runs: links of one connective that follow one another, with another
connective before and behind them. A run becomes one node, whose operands are the matcher before the
run and the operands of its links as they are, in their order. Only a run at the start of the chain
may find a node of its own connective there, and then that node takes the operands in.
-/

namespace HttpStub.Matcher

/-! ## Links and runs -/

/-- Joins one more matcher. -/
structure Link where
  op : Connective
  operand : Matcher

/-- The link as a step of a chain. -/
def Link.step (link : Link) : Step :=
  match link.op with
  | .and => .and link.operand
  | .or => .or link.operand

/-- The `step` of a link joins its operand under its connective. -/
theorem Link.apply_step (m : Matcher) (link : Link) :
    link.step.apply m = m.join link.op link.operand := by
  obtain ⟨op, operand⟩ := link
  cases op <;> rfl

/-- Links of one connective that follow one another. -/
structure Run where
  op : Connective
  first : Matcher
  rest : List Matcher

namespace Run

/-- The matchers that a run joins, in their order. -/
def operands (run : Run) : List Matcher :=
  run.first :: run.rest

/-- A run joins one matcher at least. -/
theorem operands_ne_nil (run : Run) : run.operands ≠ [] :=
  List.cons_ne_nil _ _

/-- The links of a run. -/
def links (run : Run) : List Link :=
  run.operands.map fun operand => ⟨run.op, operand⟩

/-- The node of a run, with the matcher before the run in front of its operands. -/
def around (m : Matcher) (run : Run) : Matcher :=
  .joined run.op m run.operands

/-- Puts a link in front: it goes into the first run if that has its connective. -/
def cons (link : Link) : List Run → List Run
  | [] => [⟨link.op, link.operand, []⟩]
  | run :: more =>
    if link.op = run.op then ⟨run.op, link.operand, run.operands⟩ :: more
    else ⟨link.op, link.operand, []⟩ :: run :: more

/-- Neighbouring runs have different connectives, so none of them could be longer. -/
def AreMaximal (runs : List Run) : Prop :=
  runs.IsChain fun run next => run.op ≠ next.op

end Run

/-- The runs that links fall into. -/
def runs (links : List Link) : List Run :=
  links.foldr Run.cons []

/-! ## The runs of links -/

namespace Run

/-- `Run.cons` adds the link and leaves the others as they are. -/
theorem links_cons (link : Link) (more : List Run) :
    (cons link more).flatMap links = link :: more.flatMap links := by
  cases more with
  | nil => rfl
  | cons run more =>
    rw [cons]
    split
    · rename_i h
      simp [links, operands, ← h]
    · rfl

/-- `Run.cons` keeps runs maximal. -/
theorem areMaximal_cons (link : Link) {more : List Run} (h : AreMaximal more) :
    AreMaximal (cons link more) := by
  cases more with
  | nil => exact List.isChain_singleton _
  | cons run more =>
    rw [cons]
    split
    · -- The run keeps its connective, so its neighbour still has another one.
      exact List.isChain_cons.2 (List.isChain_cons.1 h)
    · rename_i hne
      exact List.isChain_cons_cons.2 ⟨hne, h⟩

/-- `Run.cons` puts the links of a run back into that run. -/
theorem foldr_cons_links (run : Run) {more : List Run}
    (h : ∀ next ∈ more.head?, run.op ≠ next.op) : run.links.foldr cons more = run :: more := by
  obtain ⟨op, first, rest⟩ := run
  show ((first :: rest).map fun operand => (⟨op, operand⟩ : Link)).foldr cons more = _
  -- The last link opens the run, since what follows has another connective; the others go into it.
  induction rest generalizing first with
  | nil =>
    cases more with
    | nil => rfl
    | cons next more =>
      have hne : op ≠ next.op := h next rfl
      simp [cons, hne]
  | cons second rest ih =>
    rw [List.map_cons, List.foldr_cons, ih second h]
    simp [cons, operands]

end Run

/-- Put one behind the other, the `runs` of links have these links. -/
theorem links_runs (links : List Link) : (runs links).flatMap Run.links = links := by
  induction links with
  | nil => rfl
  | cons link links ih =>
    have hcons : runs (link :: links) = Run.cons link (runs links) := rfl
    rw [hcons, Run.links_cons, ih]

/-- The `runs` of links are maximal. -/
theorem areMaximal_runs (links : List Link) : Run.AreMaximal (runs links) := by
  induction links with
  | nil => exact List.isChain_nil
  | cons link links ih => exact Run.areMaximal_cons link ih

/-- Maximal runs are the `runs` of their links, so links fall into maximal runs in one way only. -/
theorem runs_flatMap_links {divided : List Run} (h : Run.AreMaximal divided) :
    runs (divided.flatMap Run.links) = divided := by
  induction divided with
  | nil => rfl
  | cons run more ih =>
    obtain ⟨hnext, hmore⟩ := List.isChain_cons.1 h
    have hrest : (more.flatMap Run.links).foldr Run.cons [] = more := ih hmore
    -- What is behind the first run falls into the other runs, the first of which has another
    -- connective.
    rw [List.flatMap_cons, runs, List.foldr_append, hrest]
    exact run.foldr_cons_links hnext

/-! ## One run -/

variable {op : Connective} {m : Matcher}

/-- `join` wraps a matcher that is no node of the connective. -/
theorem join_of_ne (h : ∀ first rest, m ≠ .joined op first rest) (other : Matcher) :
    m.join op other = .joined op m [other] := by
  cases m with
  | joined op' first rest =>
    have hne : op' ≠ op := by
      intro heq
      exact h first rest (by rw [heq])
    rw [join, if_neg hne]
  | _ => rfl

/-- A `joined` node takes in the operands that are joined under its own connective, one by one. -/
theorem foldl_join_joined (op : Connective) (first : Matcher) (rest ms : List Matcher) :
    ms.foldl (join op) (.joined op first rest) = .joined op first (rest ++ ms) := by
  induction ms generalizing rest with
  | nil => rw [List.foldl_nil, List.append_nil]
  | cons m ms ih =>
    have hstep : join op (.joined op first rest) m = .joined op first (rest ++ [m]) := if_pos rfl
    rw [List.foldl_cons, hstep, ih, List.append_assoc, List.singleton_append]

/-- Any other matcher becomes the first operand of a new `joined` node, which takes in the rest. -/
theorem foldl_join_of_ne (h : ∀ first rest, m ≠ .joined op first rest) {ms : List Matcher}
    (hms : ms ≠ []) : ms.foldl (join op) m = .joined op m ms := by
  cases ms with
  | nil => exact absurd rfl hms
  | cons other ms => rw [List.foldl_cons, join_of_ne h, foldl_join_joined, List.singleton_append]

/-- The links of a run `join` its operands one by one. -/
theorem chain_links (m : Matcher) (run : Run) :
    m.chain (run.links.map Link.step) = run.operands.foldl (join run.op) m := by
  rw [chain, Run.links, List.map_map, List.foldl_map]
  simp only [Function.comp_def, Link.apply_step]

/-! ## Many runs -/

/-- Behind a node the runs are nested by `Run.around`, as long as the first one has another
connective. -/
theorem chain_joined_runs {divided : List Run} (hmax : Run.AreMaximal divided) (first : Matcher)
    (rest : List Matcher) (hop : ∀ run ∈ divided.head?, op ≠ run.op) :
    (joined op first rest).chain ((divided.flatMap Run.links).map Link.step) =
      divided.foldl Run.around (.joined op first rest) := by
  -- The node of a run is the start of the next one, so the induction is for all nodes.
  induction divided generalizing op first rest with
  | nil => rfl
  | cons run more ih =>
    obtain ⟨hnext, hmore⟩ := List.isChain_cons.1 hmax
    have hne : ∀ first' rest', joined op first rest ≠ .joined run.op first' rest' := by
      intro first' rest' heq
      exact hop run rfl (Matcher.joined.inj heq).1
    -- The node is no node of the run's connective, so the run is wrapped around it.
    have hrun : run.operands.foldl (join run.op) (.joined op first rest) =
        run.around (.joined op first rest) := foldl_join_of_ne hne run.operands_ne_nil
    rw [List.flatMap_cons, List.map_append, chain_append, chain_links, hrun, Run.around,
      ih hmore _ _ hnext]
    rfl

/-- The exact shape of a chain. Its links fall into maximal runs in just one way, and every run is
one node around the matcher before it, with the operands of its links behind that matcher as they
are. Only if the start is a node of the first run's connective, the operands of the first run are
put behind its own. In particular, matchers joined one by one to a matcher that is no node of their
connective make the node that joins all of them at once. -/
theorem chain_eq_nested (m : Matcher) (links : List Link) (hlinks : links ≠ []) :
    (∃ run more, runs links = run :: more ∧ (run :: more).flatMap Run.links = links ∧
        Run.AreMaximal (run :: more) ∧
        (∀ divided, divided.flatMap Run.links = links → Run.AreMaximal divided →
          divided = run :: more) ∧
        (∀ first rest, m = .joined run.op first rest →
          m.chain (links.map Link.step) =
            more.foldl Run.around (.joined run.op first (rest ++ run.operands))) ∧
        ((∀ first rest, m ≠ .joined run.op first rest) →
          m.chain (links.map Link.step) =
            more.foldl Run.around (.joined run.op m run.operands))) ∧
      (∀ ms : List Matcher, ms ≠ [] → (∀ first rest, m ≠ .joined .or first rest) →
        ms.foldl or m = any m ms) ∧
      ∀ ms : List Matcher, ms ≠ [] → (∀ first rest, m ≠ .joined .and first rest) →
        ms.foldl and m = all m ms := by
  have hconcat := links_runs links
  have hmax := areMaximal_runs links
  -- Whatever maximal runs the links are divided into are the runs of these links.
  have hunique : ∀ divided, divided.flatMap Run.links = links → Run.AreMaximal divided →
      divided = runs links := by
    intro divided hdivided hmaximal
    rw [← hdivided, runs_flatMap_links hmaximal]
  have hor : ∀ ms : List Matcher, ms ≠ [] → (∀ first rest, m ≠ .joined .or first rest) →
      ms.foldl or m = any m ms := fun ms hms hm => foldl_join_of_ne hm hms
  have hand : ∀ ms : List Matcher, ms ≠ [] → (∀ first rest, m ≠ .joined .and first rest) →
      ms.foldl and m = all m ms := fun ms hms hm => foldl_join_of_ne hm hms
  refine ⟨?_, hor, hand⟩
  cases hruns : runs links with
  | nil =>
    rw [hruns] at hconcat
    exact absurd hconcat.symm hlinks
  | cons run more =>
    rw [hruns] at hconcat hmax hunique
    obtain ⟨hnext, hmore⟩ := List.isChain_cons.1 hmax
    -- Only the first run meets the start; every other one meets the node of the run before it.
    have hsplit : m.chain (links.map Link.step) =
        (run.operands.foldl (join run.op) m).chain ((more.flatMap Run.links).map Link.step) := by
      rw [← hconcat, List.flatMap_cons, List.map_append, chain_append, chain_links]
    refine ⟨run, more, rfl, hconcat, hmax, hunique, ?_, ?_⟩
    · intro first rest hm
      rw [hsplit, hm, foldl_join_joined, chain_joined_runs hmore _ _ hnext]
    · intro hm
      rw [hsplit, foldl_join_of_ne hm run.operands_ne_nil, chain_joined_runs hmore _ _ hnext]

/-- A chain of three runs from a node that takes in the first; a node joined to it stays whole. -/
theorem chain_eq_nested_alternating :
    let m := any (equalTo "a") [contains "b"]
    let whole := all (equalTo "d") [absent]
    let links : List Link :=
      [⟨.or, equalTo "c"⟩, ⟨.and, whole⟩, ⟨.and, equalTo "e"⟩, ⟨.or, m⟩]
    links ≠ [] ∧
      m.chain (links.map Link.step) =
        any (all (any (equalTo "a") [contains "b", equalTo "c"]) [whole, equalTo "e"]) [m] ∧
      (∀ first rest, whole ≠ .joined .or first rest) ∧
      [m, absent].foldl or whole = any whole [m, absent] := by
  intro m whole links
  have hlinks : links ≠ [] := List.cons_ne_nil _ _
  have hwhole : ∀ first rest, whole ≠ .joined .or first rest := by
    intro first rest heq
    exact absurd (Matcher.joined.inj heq).1 (by decide)
  obtain ⟨⟨run, more, hruns, -, -, -, htaken, -⟩, -⟩ := chain_eq_nested m links hlinks
  obtain ⟨rfl, rfl⟩ : (⟨.or, equalTo "c", []⟩ : Run) = run ∧
      [⟨.and, whole, [equalTo "e"]⟩, ⟨.or, m, []⟩] = more := List.cons.inj hruns
  have hor := (chain_eq_nested whole links hlinks).2.1 [m, absent] (List.cons_ne_nil _ _) hwhole
  exact ⟨hlinks, htaken _ _ rfl, hwhole, hor⟩

end HttpStub.Matcher
