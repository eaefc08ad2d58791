import Mathlib.Data.List.Basic

/-!
# Logs of writes

A message is torn when some but not all of its encoding is out. A log is orderly when nothing
follows a torn message; then the stream is a sequence of whole messages with at most one beginning
of a message behind it.
-/

namespace Strobengine.Foundations

universe u v

/-- The write of a message, of which a number of symbols are out. -/
structure Write (Item : Type u) where
  item : Item
  sent : Nat
  deriving DecidableEq, Repr

namespace Write

variable {Symbol : Type v} {Item : Type u} (encode : Item → List Symbol)

def symbols (write : Write Item) : List Symbol :=
  (encode write.item).take write.sent

def whole (write : Write Item) : Bool :=
  decide ((encode write.item).length ≤ write.sent)

def torn (write : Write Item) : Bool :=
  decide (0 < write.sent ∧ write.sent < (encode write.item).length)

def wholeItems (log : List (Write Item)) : List Item :=
  (log.filter (whole encode)).map item

def stream (log : List (Write Item)) : List Symbol :=
  log.flatMap (symbols encode)

def Settled (log : List (Write Item)) : Prop :=
  ∀ write ∈ log, write.torn encode = false

def orderly : List (Write Item) → Bool
  | [] => true
  | write :: later =>
    if write.torn encode then later.all (fun other => decide (other.sent = 0))
    else orderly later

section Orderly

variable {encode} {write : Write Item} {log : List (Write Item)}

theorem settled_append {first second : List (Write Item)}
    (left : Settled encode first) (right : Settled encode second) :
    Settled encode (first ++ second) := by
  intro write member
  rcases List.mem_append.mp member with before | behind
  · exact left write before
  · exact right write behind

theorem orderly_append {earlier : List (Write Item)} (settled : Settled encode earlier)
    (later : orderly encode log = true) : orderly encode (earlier ++ log) = true := by
  induction earlier with
  | nil => exact later
  | cons write earlier ih =>
    rw [List.cons_append, orderly, settled write List.mem_cons_self]
    exact ih fun other member => settled other (List.mem_cons_of_mem _ member)

theorem orderly_singleton (write : Write Item) : orderly encode [write] = true := by
  rw [orderly]
  split <;> rfl

theorem orderly_of_settled (settled : Settled encode log) : orderly encode log = true := by
  have whole : orderly encode (log ++ []) = true := orderly_append settled rfl
  rwa [List.append_nil] at whole

theorem symbols_of_not_torn (intact : write.torn encode = false) :
    write.symbols encode = if write.whole encode then encode write.item else [] := by
  rw [torn, decide_eq_false_iff_not] at intact
  rw [symbols, whole]
  split
  · rename_i complete
    exact List.take_of_length_le (of_decide_eq_true complete)
  · rename_i incomplete
    have unsent : write.sent = 0 := by
      have := of_decide_eq_false (Bool.eq_false_iff.mpr incomplete)
      omega
    rw [unsent, List.take_zero]

theorem torn_of_whole (complete : write.whole encode = true) : write.torn encode = false := by
  rw [whole, decide_eq_true_eq] at complete
  rw [torn, decide_eq_false_iff_not]
  omega

theorem stream_cons (write : Write Item) (log : List (Write Item)) :
    stream encode (write :: log) = write.symbols encode ++ stream encode log :=
  List.flatMap_cons

theorem wholeItems_cons (write : Write Item) (log : List (Write Item)) :
    wholeItems encode (write :: log) =
      if write.whole encode then write.item :: wholeItems encode log
      else wholeItems encode log := by
  rw [wholeItems, List.filter_cons]
  split <;> rfl

/-- An orderly log has put out whole messages and at most the beginning of one more. -/
theorem stream_of_orderly
    (nonempty : ∀ item, encode item ≠ []) (ordered : orderly encode log = true) :
    ∃ tail,
      stream encode log = (wholeItems encode log).flatMap encode ++ tail ∧
        (tail = [] ∨ ∃ write ∈ log, tail <+: encode write.item ∧ tail ≠ encode write.item) := by
  induction log with
  | nil => exact ⟨[], rfl, Or.inl rfl⟩
  | cons write later ih =>
    rw [orderly] at ordered
    split at ordered
    · rename_i partly
      have bounds := of_decide_eq_true partly
      have unsent (other : Write Item) (member : other ∈ later) : other.sent = 0 :=
        of_decide_eq_true (List.all_eq_true.mp ordered other member)
      have nothing : stream encode later = [] := by
        rw [stream, List.flatMap_eq_nil_iff]
        intro other member
        rw [symbols, unsent other member, List.take_zero]
      have noWhole : wholeItems encode later = [] := by
        rw [wholeItems, List.map_eq_nil_iff, List.filter_eq_nil_iff]
        intro other member
        rw [whole, unsent other member, decide_eq_true_eq, Nat.le_zero, List.length_eq_zero_iff]
        exact nonempty other.item
      have incomplete : ¬ write.whole encode = true := by
        rw [whole, decide_eq_true_eq]
        omega
      refine ⟨write.symbols encode, ?_, Or.inr ⟨write, List.mem_cons_self, ?_, ?_⟩⟩
      · rw [stream_cons, nothing, wholeItems_cons, if_neg incomplete, noWhole, List.append_nil]
        rfl
      · exact List.take_prefix _ _
      · intro same
        have lengths := congrArg List.length same
        rw [symbols, List.length_take] at lengths
        omega
    · rename_i intact
      obtain ⟨tail, written, cut⟩ := ih ordered
      refine ⟨tail, ?_, ?_⟩
      · rw [stream_cons, symbols_of_not_torn (Bool.eq_false_iff.mpr intact), written,
          wholeItems_cons]
        split
        · rw [List.flatMap_cons, List.append_assoc]
        · rfl
      · rcases cut with empty | ⟨other, member, front⟩
        · exact Or.inl empty
        · exact Or.inr ⟨other, List.mem_cons_of_mem _ member, front⟩

end Orderly

end Write

end Strobengine.Foundations
