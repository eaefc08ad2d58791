import Mathlib.Data.List.DropRight

/-!
# Incremental decoders

A decoder pulls items off the front of a buffer that grows as data arrives. It is steady when data
that arrives later never changes what has been decided; feeding it is then independent of the
chunks.
-/

namespace Strobengine.Foundations

universe u v w

/-- What a decoder says of its buffer, with what it leaves in it. -/
inductive Pull (Symbol : Type u) (Item : Type v) (Error : Type w) where
  | more (rest : List Symbol)
  | item (item : Item) (rest : List Symbol)
  | fail (error : Error) (rest : List Symbol)

structure Puller (Symbol : Type u) (Item : Type v) (Error : Type w) where
  pull : List Symbol → Pull Symbol Item Error
  shrinks :
    ∀ {buffer rest : List Symbol} {item : Item},
      pull buffer = .item item rest → rest.length < buffer.length

/-- What a decoder has yielded: items, the first error, and what is left in the buffer. -/
@[ext]
structure Yield (Symbol : Type u) (Item : Type v) (Error : Type w) where
  items : List Item
  error : Option Error
  rest : List Symbol

variable {Symbol : Type u} {Item : Type v} {Error : Type w}

namespace Yield

def idle (rest : List Symbol) : Yield Symbol Item Error :=
  { items := [], error := none, rest }

def followedBy (first second : Yield Symbol Item Error) : Yield Symbol Item Error :=
  { items := first.items ++ second.items
    error := first.error.or second.error
    rest := second.rest }

theorem followedBy_idle (first : Yield Symbol Item Error) :
    first.followedBy (idle first.rest) = first := by
  ext1
  · exact List.append_nil first.items
  · exact Option.or_none
  · rfl

theorem idle_followedBy (rest : List Symbol) (second : Yield Symbol Item Error) :
    (idle rest).followedBy second = second := by
  ext1
  · rfl
  · exact Option.none_or
  · rfl

end Yield

namespace Puller

variable (puller : Puller Symbol Item Error)

/-- Pull until no complete item is left, or an error is found. -/
def drain (buffer : List Symbol) : Yield Symbol Item Error :=
  match pulled : puller.pull buffer with
  | .more rest => .idle rest
  | .fail error rest => { items := [], error := some error, rest }
  | .item item rest =>
    have := puller.shrinks pulled
    let later := drain rest
    { later with items := item :: later.items }
termination_by buffer.length

def feed (pending : List Symbol) : List (List Symbol) → Yield Symbol Item Error
  | [] => .idle pending
  | chunk :: chunks =>
    let drained := puller.drain (pending ++ chunk)
    drained.followedBy (feed drained.rest chunks)

/-- Data that arrives later does not change what has been decided. -/
structure Steady : Prop where
  more :
    ∀ {buffer rest : List Symbol}, puller.pull buffer = .more rest →
      ∀ arrived, puller.pull (buffer ++ arrived) = puller.pull (rest ++ arrived)
  item :
    ∀ {buffer rest : List Symbol} {item : Item}, puller.pull buffer = .item item rest →
      ∀ arrived, puller.pull (buffer ++ arrived) = .item item (rest ++ arrived)
  fail :
    ∀ {buffer rest : List Symbol} {error : Error}, puller.pull buffer = .fail error rest →
      ∀ arrived,
        puller.pull (buffer ++ arrived) = .fail error (rest ++ arrived) ∧
          puller.pull (rest ++ arrived) = .fail error (rest ++ arrived)

section Drain

variable {puller} {buffer rest : List Symbol}

theorem drain_of_more (pulled : puller.pull buffer = .more rest) :
    puller.drain buffer = .idle rest := by
  rw [drain]
  split <;> simp_all

theorem drain_of_fail {error : Error} (pulled : puller.pull buffer = .fail error rest) :
    puller.drain buffer = { items := [], error := some error, rest } := by
  rw [drain]
  split <;> simp_all

theorem drain_of_item {item : Item} (pulled : puller.pull buffer = .item item rest) :
    puller.drain buffer =
      { items := item :: (puller.drain rest).items
        error := (puller.drain rest).error
        rest := (puller.drain rest).rest } := by
  rw [drain]
  split <;> simp_all

theorem drain_congr {other : List Symbol} (same : puller.pull buffer = puller.pull other) :
    puller.drain buffer = puller.drain other := by
  cases pulled : puller.pull other with
  | more => rw [drain_of_more pulled, drain_of_more (same.trans pulled)]
  | item => rw [drain_of_item pulled, drain_of_item (same.trans pulled)]
  | fail => rw [drain_of_fail pulled, drain_of_fail (same.trans pulled)]

theorem Steady.drain_append (steady : puller.Steady) (buffer arrived : List Symbol) :
    puller.drain (buffer ++ arrived) =
      (puller.drain buffer).followedBy
        (puller.drain ((puller.drain buffer).rest ++ arrived)) := by
  induction size : buffer.length using Nat.strongRecOn generalizing buffer with
  | ind size ih =>
    cases pulled : puller.pull buffer with
    | more =>
      rw [drain_of_more pulled, Yield.idle_followedBy]
      exact drain_congr (steady.more pulled arrived)
    | item item rest =>
      have shorter := puller.shrinks pulled
      rw [size] at shorter
      rw [drain_of_item pulled, drain_of_item (steady.item pulled arrived),
        ih rest.length shorter rest rfl]
      rfl
    | fail =>
      obtain ⟨now, again⟩ := steady.fail pulled arrived
      rw [drain_of_fail pulled, drain_of_fail now, drain_of_fail again]
      rfl

theorem Steady.feed_eq_drain
    (steady : puller.Steady) (pending chunk : List Symbol) (chunks : List (List Symbol)) :
    puller.feed pending (chunk :: chunks) =
      puller.drain (pending ++ (chunk :: chunks).flatten) := by
  induction chunks generalizing pending chunk with
  | nil =>
    rw [feed, feed, Yield.followedBy_idle, List.flatten_cons, List.flatten_nil, List.append_nil]
  | cons next chunks ih =>
    have whole :
        pending ++ (chunk :: next :: chunks).flatten =
          (pending ++ chunk) ++ (next :: chunks).flatten := by
      rw [List.flatten_cons, List.append_assoc]
    rw [feed, ih, whole, steady.drain_append (pending ++ chunk)]

variable (puller) in
/-- The items are the first that the received data holds, and the rest holds the others. So
it stays when more arrives. -/
def Taken (received : List Symbol) (items : List Item) (rest : List Symbol) : Prop :=
  ∀ arrived,
    (puller.drain (received ++ arrived)).items = items ++ (puller.drain (rest ++ arrived)).items

theorem taken_nil (received : List Symbol) : puller.Taken received [] received :=
  fun _ => rfl

theorem Taken.push {received : List Symbol} {items : List Item}
    (taken : puller.Taken received items rest) (chunk : List Symbol) :
    puller.Taken (received ++ chunk) items (rest ++ chunk) := by
  intro arrived
  rw [List.append_assoc, List.append_assoc]
  exact taken (chunk ++ arrived)

theorem Taken.prefix_drain {received : List Symbol} {items : List Item}
    (taken : puller.Taken received items rest) :
    items <+: (puller.drain received).items := by
  have now := taken []
  rw [List.append_nil] at now
  rw [now]
  exact List.prefix_append _ _

section Steady

variable {received : List Symbol} {items : List Item}

theorem Taken.more (taken : puller.Taken received items buffer) (steady : puller.Steady)
    (pulled : puller.pull buffer = .more rest) : puller.Taken received items rest := by
  intro arrived
  rw [taken arrived, drain_congr (steady.more pulled arrived)]

theorem Taken.fail {error : Error}
    (taken : puller.Taken received items buffer) (steady : puller.Steady)
    (pulled : puller.pull buffer = .fail error rest) : puller.Taken received items rest := by
  intro arrived
  obtain ⟨now, again⟩ := steady.fail pulled arrived
  rw [taken arrived, drain_congr (now.trans again.symm)]

theorem Taken.item {item : Item}
    (taken : puller.Taken received items buffer) (steady : puller.Steady)
    (pulled : puller.pull buffer = .item item rest) :
    puller.Taken received (items ++ [item]) rest := by
  intro arrived
  rw [taken arrived, drain_of_item (steady.item pulled arrived), List.append_assoc]
  rfl

end Steady

end Drain

end Puller

/-- The result of a parser: the value it has read with what follows, an error, or that the
end was reached before a decision. -/
inductive Parsed (Symbol : Type u) (Error : Type w) (Value : Type v) where
  | incomplete
  | failed (error : Error)
  | parsed (value : Value) (rest : List Symbol)

namespace Parsed

variable {Value : Type v} {Result : Type v} {Other : Type v}

def map (change : Value → Result) : Parsed Symbol Error Value → Parsed Symbol Error Result
  | .incomplete => .incomplete
  | .failed error => .failed error
  | .parsed value rest => .parsed (change value) rest

theorem map_map
    (change : Value → Result) (again : Result → Other) (parsed : Parsed Symbol Error Value) :
    (parsed.map change).map again = parsed.map (again ∘ change) := by
  cases parsed <;> rfl

def extend (more : List Symbol) : Parsed Symbol Error Value → Parsed Symbol Error Value
  | .incomplete => .incomplete
  | .failed error => .failed error
  | .parsed value rest => .parsed value (rest ++ more)

theorem extend_map
    (change : Value → Result) (more : List Symbol) (parsed : Parsed Symbol Error Value) :
    (parsed.map change).extend more = (parsed.extend more).map change := by
  cases parsed <;> rfl

theorem map_eq_incomplete_iff {change : Value → Result} {parsed : Parsed Symbol Error Value} :
    parsed.map change = .incomplete ↔ parsed = .incomplete := by
  cases parsed with
  | incomplete => exact iff_of_true rfl rfl
  | failed | parsed => exact iff_of_false (fun same => by cases same) (fun same => by cases same)

theorem map_eq_parsed {change : Value → Result} {parsed : Parsed Symbol Error Value}
    {result : Result} {rest : List Symbol} (mapped : parsed.map change = .parsed result rest) :
    ∃ value, parsed = .parsed value rest ∧ change value = result := by
  cases parsed with
  | incomplete | failed => cases mapped
  | parsed value =>
    cases mapped
    exact ⟨value, rfl, rfl⟩

end Parsed

/-- A parser reads a value off the front of a list. -/
def Parser (Symbol : Type u) (Error : Type w) (Value : Type v) :=
  List Symbol → Parsed Symbol Error Value

namespace Parser

variable {Value : Type v} {Result : Type v}

def bind (first : Parser Symbol Error Value) (next : Value → Parser Symbol Error Result) :
    Parser Symbol Error Result :=
  fun symbols =>
    match first symbols with
    | .incomplete => .incomplete
    | .failed error => .failed error
    | .parsed value rest => next value rest

def lift (result : Except Error Value) : Parser Symbol Error Value :=
  fun symbols =>
    match result with
    | .error error => .failed error
    | .ok value => .parsed value symbols

structure Stable (parser : Parser Symbol Error Value) : Prop where
  decided :
    ∀ (symbols more : List Symbol), parser symbols ≠ .incomplete →
      parser (symbols ++ more) = (parser symbols).extend more

section Decided

variable {parser : Parser Symbol Error Value} {symbols rest : List Symbol}

theorem Stable.parsed (stable : parser.Stable) {value : Value}
    (read : parser symbols = .parsed value rest) (more : List Symbol) :
    parser (symbols ++ more) = .parsed value (rest ++ more) := by
  rw [stable.decided symbols more (by rw [read]; exact fun same => by cases same), read]
  rfl

theorem Stable.failed (stable : parser.Stable) {error : Error}
    (read : parser symbols = .failed error) (more : List Symbol) :
    parser (symbols ++ more) = .failed error := by
  rw [stable.decided symbols more (by rw [read]; exact fun same => by cases same), read]
  rfl

end Decided

/-- What is left is not longer than what was read from. -/
structure Consumes (parser : Parser Symbol Error Value) : Prop where
  length_le :
    ∀ {symbols rest : List Symbol} {value : Value},
      parser symbols = .parsed value rest → rest.length ≤ symbols.length

section Bind

variable {first : Parser Symbol Error Value} {next : Value → Parser Symbol Error Result}

theorem bind_eq_parsed {symbols rest : List Symbol} {result : Result}
    (run : first.bind next symbols = .parsed result rest) :
    ∃ value middle,
      first symbols = .parsed value middle ∧ next value middle = .parsed result rest := by
  unfold bind at run
  split at run
  · cases run
  · cases run
  · rename_i value middle read
    exact ⟨value, middle, read, run⟩

theorem bind_of_parsed
    {symbols rest : List Symbol} {value : Value} (read : first symbols = .parsed value rest) :
    first.bind next symbols = next value rest := by
  rw [bind, read]

theorem Stable.bind (stable : first.Stable) (later : ∀ value, (next value).Stable) :
    (first.bind next).Stable where
  decided := by
    intro symbols more run
    unfold Parser.bind at run ⊢
    cases read : first symbols with
    | incomplete =>
      rw [read] at run
      exact absurd rfl run
    | failed => rw [stable.failed read more, Parsed.extend]
    | parsed value rest =>
      rw [read] at run
      rw [stable.parsed read more]
      exact (later value).decided rest more run

theorem stable_lift (result : Except Error Value) :
    (lift result : Parser Symbol Error Value).Stable where
  decided := by
    intro symbols more _
    cases result <;> rfl

theorem Stable.incomplete_of_append (stable : first.Stable)
    {front more : List Symbol} {value : Value}
    (read : first (front ++ more) = .parsed value []) (proper : more ≠ []) :
    first front = .incomplete := by
  cases early : first front with
  | incomplete => rfl
  | failed =>
    rw [stable.failed early more] at read
    cases read
  | parsed found rest =>
    rw [stable.parsed early more] at read
    cases rest with
    | nil => exact absurd (Parsed.parsed.inj read).2 proper
    | cons => cases read

theorem Consumes.bind (consumes : first.Consumes) (later : ∀ value, (next value).Consumes) :
    (first.bind next).Consumes where
  length_le := by
    intro symbols rest result run
    obtain ⟨value, middle, read, continued⟩ := bind_eq_parsed run
    exact Nat.le_trans ((later value).length_le continued) (consumes.length_le read)

theorem consumes_lift (result : Except Error Value) :
    (lift result : Parser Symbol Error Value).Consumes where
  length_le := by
    intro symbols rest value run
    cases result with
    | error => cases run
    | ok =>
      cases run
      exact Nat.le_refl _

end Bind

end Parser

variable {skipped : Symbol → Bool}

theorem dropWhile_append_of_ne_nil {symbols : List Symbol}
    (some : symbols.dropWhile skipped ≠ []) (more : List Symbol) :
    (symbols ++ more).dropWhile skipped = symbols.dropWhile skipped ++ more := by
  rw [List.dropWhile_append]
  simp [List.isEmpty_iff, some]

theorem dropWhile_eq_self_of_head {symbols : List Symbol}
    (begins : ∀ symbol ∈ symbols.head?, skipped symbol = false) :
    symbols.dropWhile skipped = symbols := by
  cases symbols with
  | nil => rfl
  | cons symbol =>
    rw [List.dropWhile_cons, begins symbol rfl]
    rfl

theorem dropWhile_append_dropWhile (skipped : Symbol → Bool) (symbols more : List Symbol) :
    (symbols.dropWhile skipped ++ more).dropWhile skipped =
      (symbols ++ more).dropWhile skipped := by
  rw [List.dropWhile_append, List.dropWhile_append, List.dropWhile_idempotent]

def Parser.pull (skipped : Symbol → Bool) (parser : Parser Symbol Error Item)
    (buffer : List Symbol) : Pull Symbol Item Error :=
  let waiting := buffer.dropWhile skipped
  match parser waiting with
  | .incomplete => .more waiting
  | .failed error => .fail error waiting
  | .parsed item rest => .item item rest

section Separated

variable {skipped : Symbol → Bool} {parser : Parser Symbol Error Item} {buffer rest : List Symbol}

theorem Parser.pull_eq_more (pulled : parser.pull skipped buffer = .more rest) :
    rest = buffer.dropWhile skipped := by
  unfold Parser.pull at pulled
  dsimp only at pulled
  split at pulled <;> cases pulled
  rfl

theorem Parser.pull_eq_item {item : Item} (pulled : parser.pull skipped buffer = .item item rest) :
    parser (buffer.dropWhile skipped) = .parsed item rest := by
  unfold Parser.pull at pulled
  dsimp only at pulled
  split at pulled <;> cases pulled
  assumption

theorem Parser.pull_eq_fail {error : Error}
    (pulled : parser.pull skipped buffer = .fail error rest) :
    parser (buffer.dropWhile skipped) = .failed error ∧ rest = buffer.dropWhile skipped := by
  unfold Parser.pull at pulled
  dsimp only at pulled
  split at pulled <;> cases pulled
  exact ⟨by assumption, rfl⟩

variable {waiting : List Symbol}

theorem Parser.pull_of_parsed {item : Item}
    (left : buffer.dropWhile skipped = waiting) (read : parser waiting = .parsed item rest) :
    parser.pull skipped buffer = .item item rest := by
  rw [Parser.pull, left, read]

theorem Parser.pull_of_failed {error : Error}
    (left : buffer.dropWhile skipped = waiting) (read : parser waiting = .failed error) :
    parser.pull skipped buffer = .fail error waiting := by
  rw [Parser.pull, left, read]

theorem Parser.pull_of_incomplete
    (left : buffer.dropWhile skipped = waiting) (read : parser waiting = .incomplete) :
    parser.pull skipped buffer = .more waiting := by
  rw [Parser.pull, left, read]

end Separated

def Parser.puller (skipped : Symbol → Bool) (parser : Parser Symbol Error Item)
    (shrinks :
      ∀ {symbols rest : List Symbol} {item : Item},
        parser symbols = .parsed item rest → rest.length < symbols.length) :
    Puller Symbol Item Error where
  pull := parser.pull skipped
  shrinks := by
    intro buffer rest item pulled
    have shorter := shrinks (Parser.pull_eq_item pulled)
    have kept := (List.dropWhile_sublist skipped (l := buffer)).length_le
    omega

theorem Parser.steady_puller {parser : Parser Symbol Error Item} {shrinks :
      ∀ {symbols rest : List Symbol} {item : Item},
        parser symbols = .parsed item rest → rest.length < symbols.length}
    (stable : parser.Stable) (needs : parser [] = .incomplete) :
    (parser.puller skipped shrinks).Steady where
  more := by
    intro buffer rest pulled arrived
    rw [Parser.pull_eq_more pulled]
    change parser.pull skipped _ = parser.pull skipped _
    rw [Parser.pull, Parser.pull, dropWhile_append_dropWhile]
  item := by
    intro buffer rest item pulled arrived
    have read := Parser.pull_eq_item pulled
    have waiting : buffer.dropWhile skipped ≠ [] := by
      intro empty
      rw [empty, needs] at read
      cases read
    exact
      Parser.pull_of_parsed (dropWhile_append_of_ne_nil waiting arrived)
        (stable.parsed read arrived)
  fail := by
    intro buffer rest error pulled arrived
    obtain ⟨read, rfl⟩ := Parser.pull_eq_fail pulled
    have waiting : buffer.dropWhile skipped ≠ [] := by
      intro empty
      rw [empty, needs] at read
      cases read
    have failed := stable.failed read arrived
    have whole := dropWhile_append_of_ne_nil waiting arrived
    have again := (dropWhile_append_dropWhile skipped buffer arrived).trans whole
    exact ⟨Parser.pull_of_failed whole failed, Parser.pull_of_failed again failed⟩

def separated (encode : Item → List Symbol) (parts : List (List Symbol × Item))
    (last : List Symbol) : List Symbol :=
  parts.flatMap (fun part => part.1 ++ encode part.2) ++ last

/-- Items that are parsed off the front of their encodings, and whose encodings do not begin
with a separator, are drained in order. -/
theorem Parser.drain_separated {parser : Parser Symbol Error Item} {shrinks :
      ∀ {symbols rest : List Symbol} {item : Item},
        parser symbols = .parsed item rest → rest.length < symbols.length}
    (needs : parser [] = .incomplete)
    (encode : Item → List Symbol) (parts : List (List Symbol × Item)) (last : List Symbol)
    (gaps : ∀ part ∈ parts, ∀ symbol ∈ part.1, skipped symbol = true)
    (trailing : ∀ symbol ∈ last, skipped symbol = true)
    (begins :
      ∀ part ∈ parts, ∀ rest, (encode part.2 ++ rest).dropWhile skipped = encode part.2 ++ rest)
    (reads : ∀ part ∈ parts, ∀ rest, parser (encode part.2 ++ rest) = .parsed part.2 rest) :
    (parser.puller skipped shrinks).drain (separated encode parts last) =
      { items := parts.map Prod.snd, error := none, rest := [] } := by
  induction parts with
  | nil =>
    have nothing : last.dropWhile skipped = [] := List.dropWhile_eq_nil_iff.mpr trailing
    exact Puller.drain_of_more (Parser.pull_of_incomplete nothing needs)
  | cons part parts ih =>
    have whole :
        separated encode (part :: parts) last =
          part.1 ++ (encode part.2 ++ separated encode parts last) := by
      simp only [separated, List.flatMap_cons, List.append_assoc]
    have waiting :
        (separated encode (part :: parts) last).dropWhile skipped =
          encode part.2 ++ separated encode parts last := by
      rw [whole, List.dropWhile_append_of_pos (gaps part List.mem_cons_self)]
      exact begins part List.mem_cons_self _
    have pulled :
        (parser.puller skipped shrinks).pull (separated encode (part :: parts) last) =
          .item part.2 (separated encode parts last) :=
      Parser.pull_of_parsed waiting (reads part List.mem_cons_self _)
    rw [Puller.drain_of_item pulled,
      ih (fun other member => gaps other (List.mem_cons_of_mem _ member))
        (fun other member => begins other (List.mem_cons_of_mem _ member))
        (fun other member => reads other (List.mem_cons_of_mem _ member))]
    rfl

end Strobengine.Foundations
