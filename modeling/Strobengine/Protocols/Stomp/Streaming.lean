import Strobengine.Protocols.Stomp.Grammar

/-!
# Draining the decoder

After every chunk frames are pulled until `nextFrame` has none or reports an error. What is pulled
in the end depends on the bytes alone, not on how they were cut.
-/

namespace Strobengine.Protocols.Stomp

open Foundations

structure Drained where
  frames : List Frame
  error : Option CodecError
  decoder : Decoder

def Drained.view (drained : Drained) : Yield UInt8 Frame CodecError :=
  { items := drained.frames
    error := drained.error
    rest := drained.decoder.unread }

namespace Decoder

theorem unread_nextFrame_lt {decoder after : Decoder} {frame : Frame}
    (called : decoder.nextFrame = (.ok (some frame), after)) :
    after.unread.length < decoder.unread.length := by
  have pulled := view_nextFrame decoder
  rw [called] at pulled
  exact Grammar.decoder.shrinks pulled.symm

def drain (decoder : Decoder) : Drained :=
  match called : decoder.nextFrame with
  | (.ok none, after) => { frames := [], error := none, decoder := after }
  | (.error error, after) => { frames := [], error := some error, decoder := after }
  | (.ok (some frame), after) =>
    have := unread_nextFrame_lt called
    let later := drain after
    { later with frames := frame :: later.frames }
termination_by decoder.unread.length

def feed (decoder : Decoder) : List (List UInt8) → Drained
  | [] => { frames := [], error := none, decoder }
  | chunk :: chunks =>
    let drained := (decoder.push chunk).drain
    let later := drained.decoder.feed chunks
    { frames := drained.frames ++ later.frames
      error := drained.error.or later.error
      decoder := later.decoder }

theorem view_drain (decoder : Decoder) :
    decoder.drain.view = Grammar.decoder.drain decoder.unread := by
  induction size : decoder.unread.length using Nat.strongRecOn generalizing decoder with
  | ind size ih =>
    have pulled := view_nextFrame decoder
    rw [drain]
    split
    · rename_i after called
      rw [called] at pulled
      exact (Puller.drain_of_more pulled.symm).symm
    · rename_i error after called
      rw [called] at pulled
      exact (Puller.drain_of_fail pulled.symm).symm
    · rename_i frame after called
      rw [called] at pulled
      have shorter := unread_nextFrame_lt called
      rw [size] at shorter
      rw [Puller.drain_of_item pulled.symm, ← ih after.unread.length shorter after rfl]
      rfl

theorem view_feed (decoder : Decoder) (chunks : List (List UInt8)) :
    (decoder.feed chunks).view = Grammar.decoder.feed decoder.unread chunks := by
  induction chunks generalizing decoder with
  | nil => rfl
  | cons chunk chunks ih =>
    have first := view_drain (decoder.push chunk)
    rw [unread_push] at first
    rw [Puller.feed, ← first]
    exact
      congrArg (Yield.followedBy (decoder.push chunk).drain.view)
        (ih (decoder.push chunk).drain.decoder)

theorem view_feed_new (chunks : List (List UInt8)) :
    (new.feed chunks).view = (new.push chunks.flatten).drain.view := by
  rw [view_feed, view_drain, unread_push]
  cases chunks with
  | nil =>
    -- no bytes: the grammar waits for more
    exact (Puller.drain_of_more rfl).symm
  | cons chunk chunks => exact Grammar.steady_decoder.feed_eq_drain _ chunk chunks

/-- The frames and the first error do not depend on how the bytes were cut. -/
theorem feed_independent_of_chunks (chunks : List (List UInt8)) :
    (new.feed chunks).frames = (new.push chunks.flatten).drain.frames ∧
      (new.feed chunks).error = (new.push chunks.flatten).drain.error := by
  have same := view_feed_new chunks
  exact ⟨congrArg Yield.items same, congrArg Yield.error same⟩

end Decoder

end Strobengine.Protocols.Stomp
