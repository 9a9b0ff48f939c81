import ArgReport.Text.Lossy
import ArgReport.Proofs.Text.Shape
import Mathlib.Data.List.Induction

/-!
# What decoding keeps

The decoder keeps whole characters as they are, so decoding is undone by encoding
exactly on well-formed bytes, and decoding what was encoded changes nothing.

What stands in front of some bytes matters to them only through a character that
is still pending. Whole characters leave none pending, and a byte that is no tail
byte ends whatever is. At such a place bytes may be cut and decoded in parts.
-/

namespace ArgReport

/-! ## Decoding whole characters -/

namespace Decoder

/-- Bytes that complete a pending character are read as it. -/
theorem foldl_feed_pending
    {pending : Pending}
    {byte : UInt8}
    {tails : List UInt8}
    (inRange : pending.low ≤ byte ∧ byte ≤ pending.high)
    (count : tails.length = pending.tails)
    (tail : ∀ other ∈ tails, IsTail other)
    (text : String) :
    (byte :: tails).foldl feed { text, pending := some pending } =
      { text := text.push
          (Char.ofNat (numberFrom pending.value (byte :: tails))) } := by
  induction tails generalizing pending byte with
  | nil =>
      simp only [List.foldl_cons, List.foldl_nil, feed, if_pos inRange,
        ← count, List.length_nil]
      rfl
  | cons second rest inductionHypothesis =>
      have step : feed { text, pending := some pending } byte =
          { text
            pending := some
              { low := tailLow
                high := tailHigh
                tails := rest.length
                value := pending.value * 64 + byte.toNat % 64 } } := by
        simp only [feed, if_pos inRange, ← count, List.length_cons]
      rw [List.foldl_cons, step]
      exact inductionHypothesis (tail second List.mem_cons_self) rfl
        fun other member => tail other (List.mem_cons_of_mem _ member)

/-- A whole character is added to the text, and nothing is left pending. -/
theorem foldl_feed_several
    {shape : Utf8Shape}
    (member : shape ∈ Utf8Shape.all)
    {lead second : UInt8}
    {tails : List UInt8}
    (leads : shape.Leads lead)
    (seconds : shape.Seconds second)
    (count : tails.length = shape.tails)
    (tail : ∀ byte ∈ tails, IsTail byte)
    (text : String) :
    (lead :: second :: tails).foldl feed { text } =
      { text := text.push (Char.ofNat
          (numberFrom (shape.payload lead) (second :: tails))) } := by
  have notAscii : ¬lead < 0x80 := by
    have behind := Utf8Shape.tail_lt_of_leads member leads
    have most : 0xBF < lead.toNat := behind
    rw [UInt8.lt_iff_toNat_lt]
    change ¬lead.toNat < 128
    omega
  have opened : feed { text } lead =
      { text
        pending := some
          { low := shape.secondLow
            high := shape.secondHigh
            tails := shape.tails
            value := shape.payload lead } } := by
    simp only [feed, start, if_neg notAscii,
      Utf8Shape.ofLead?_of_leads member leads]
  rw [List.foldl_cons, opened]
  apply foldl_feed_pending _ count tail
  exact seconds

theorem feed_of_ascii
    {byte : UInt8}
    (ascii : byte < 0x80)
    (text : String) :
    feed { text } byte = { text := text.push (Char.ofNat byte.toNat) } := by
  simp only [feed, start, if_pos ascii]
  rfl

end Decoder

theorem utf8EncodeChar_of_ascii {byte : UInt8} (ascii : byte < 0x80) :
    String.utf8EncodeChar (Char.ofNat byte.toNat) = [byte] := by
  have small : byte.toNat < 0x80 := ascii
  have valid : byte.toNat.isValidChar := .inl (by omega)
  simp only [String.utf8EncodeChar, toNat_val_ofNat valid]
  rw [if_pos (by omega), UInt8.ofNat_toNat]

theorem utf8_push (text : String) (character : Char) :
    utf8 (text.push character) =
      utf8 text ++ String.utf8EncodeChar character := by
  simp [utf8]

/-- Whole characters are decoded one by one, and nothing is left pending. -/
theorem WellFormed.foldl_feed
    {bytes : List UInt8}
    (formed : WellFormed bytes)
    (text : String) :
    ∃ longer, bytes.foldl Decoder.feed { text } = { text := longer } ∧
      utf8 longer = utf8 text ++ bytes := by
  induction formed generalizing text with
  | nil => exact ⟨text, rfl, (List.append_nil _).symm⟩
  | single ascii _ inductionHypothesis =>
      obtain ⟨longer, fed, same⟩ := inductionHypothesis _
      refine ⟨longer, ?_, ?_⟩
      · rw [List.foldl_cons, Decoder.feed_of_ascii ascii]
        exact fed
      · rw [same, utf8_push, utf8EncodeChar_of_ascii ascii,
          List.append_assoc, List.singleton_append]
  | several member leads seconds count tail _ inductionHypothesis =>
      obtain ⟨longer, fed, same⟩ := inductionHypothesis _
      refine ⟨longer, ?_, ?_⟩
      · rw [← List.cons_append, ← List.cons_append, List.foldl_append,
          Decoder.foldl_feed_several member leads seconds count tail]
        exact fed
      · rw [same, utf8_push, Utf8Shape.utf8EncodeChar_numberFrom member leads
          seconds count tail]
        simp only [List.append_assoc, List.cons_append]

/-- Whole characters are kept by the decoder. -/
theorem utf8_decodeLossy_of_wellFormed
    {bytes : List UInt8}
    (formed : WellFormed bytes) :
    utf8 (decodeLossy bytes) = bytes := by
  obtain ⟨text, fed, same⟩ := formed.foldl_feed ""
  rw [decodeLossy, fed]
  rw [utf8_empty, List.nil_append] at same
  exact same

/-- The decoder keeps exactly the bytes that are whole characters. -/
theorem utf8_decodeLossy_eq_self_iff {bytes : List UInt8} :
    utf8 (decodeLossy bytes) = bytes ↔ WellFormed bytes := by
  constructor
  · intro kept
    rw [← kept]
    exact wellFormed_utf8 _
  · exact utf8_decodeLossy_of_wellFormed

/-- The well-formed bytes are the bytes of texts. -/
theorem wellFormed_iff_exists_utf8 {bytes : List UInt8} :
    WellFormed bytes ↔ ∃ text, utf8 text = bytes := by
  constructor
  · intro formed
    exact ⟨_, utf8_decodeLossy_of_wellFormed formed⟩
  · rintro ⟨text, rfl⟩
    exact wellFormed_utf8 text

/-- A text is decoded from its bytes. -/
@[simp] theorem decodeLossy_utf8 (text : String) :
    decodeLossy (utf8 text) = text := by
  apply utf8_injective
  exact utf8_decodeLossy_of_wellFormed (wellFormed_utf8 text)

/-! ## Decoding in parts -/

namespace Decoder

/-- The decoder with more text in front. -/
def after (text : String) (decoder : Decoder) : Decoder :=
  { decoder with text := text ++ decoder.text }

theorem push_after (text : String) (decoder : Decoder) (character : Char) :
    (decoder.after text).push character =
      (decoder.push character).after text := by
  simp only [push, after, String.push_eq_append, String.append_assoc]

theorem start_after (text : String) (decoder : Decoder) (byte : UInt8) :
    (decoder.after text).start byte = (decoder.start byte).after text := by
  unfold start
  split
  · exact push_after _ _ _
  · cases Utf8Shape.ofLead? byte with
    | none => exact push_after _ _ _
    | some shape => rfl

/-- A byte that cannot continue the pending character is read as a start. -/
theorem feed_of_broken
    {decoder : Decoder}
    {pending : Pending}
    {byte : UInt8}
    (opened : decoder.pending = some pending)
    (broken : ¬(pending.low ≤ byte ∧ byte ≤ pending.high)) :
    decoder.feed byte = (decoder.push replacement).start byte := by
  simp only [feed, opened, if_neg broken]

/-- What stands in front does not matter to a byte. -/
theorem feed_after (text : String) (decoder : Decoder) (byte : UInt8) :
    (decoder.after text).feed byte = (decoder.feed byte).after text := by
  cases opened : decoder.pending with
  | none =>
      simp only [feed, after, opened]
      exact start_after text decoder byte
  | some pending =>
      by_cases inRange : pending.low ≤ byte ∧ byte ≤ pending.high
      · simp only [feed, after, opened, if_pos inRange]
        split
        · exact push_after text decoder _
        · rfl
      · have openedAfter : (decoder.after text).pending = some pending := opened
        rw [feed_of_broken opened inRange, feed_of_broken openedAfter inRange,
          push_after, start_after]

theorem foldl_feed_after
    (text : String)
    (decoder : Decoder)
    (bytes : List UInt8) :
    bytes.foldl feed (decoder.after text) =
      (bytes.foldl feed decoder).after text := by
  induction bytes generalizing decoder with
  | nil => rfl
  | cons byte rest inductionHypothesis =>
      rw [List.foldl_cons, List.foldl_cons, feed_after, inductionHypothesis]

theorem finish_after (text : String) (decoder : Decoder) :
    (decoder.after text).finish = text ++ decoder.finish := by
  obtain ⟨own, pending⟩ := decoder
  cases pending with
  | none => rfl
  | some pending =>
      simp only [finish, after, String.push_eq_append, String.append_assoc]

/-- Bytes that follow some text are decoded as if they stood alone. -/
theorem finish_foldl_feed (text : String) (bytes : List UInt8) :
    (bytes.foldl feed { text }).finish = text ++ decodeLossy bytes := by
  have front : ({ text } : Decoder) = after text {} := by
    simp [after]
  rw [front, foldl_feed_after, finish_after]
  rfl

/-- Whatever is pending waits for a tail byte. -/
def AwaitsTail (decoder : Decoder) : Prop :=
  ∀ pending, decoder.pending = some pending ->
    tailLow ≤ pending.low ∧ pending.high ≤ tailHigh

theorem awaitsTail_of_settled
    {decoder : Decoder}
    (settled : decoder.pending = none) :
    decoder.AwaitsTail := by
  intro pending opened
  rw [settled] at opened
  cases opened

theorem awaitsTail_start (decoder : Decoder) (byte : UInt8) :
    (decoder.start byte).AwaitsTail := by
  unfold start
  split
  · exact awaitsTail_of_settled rfl
  · cases found : Utf8Shape.ofLead? byte with
    | none => exact awaitsTail_of_settled rfl
    | some shape =>
        intro pending opened
        injection opened with same
        subst same
        exact Utf8Shape.seconds_are_tails shape (List.mem_of_find?_eq_some found)

theorem awaitsTail_feed (decoder : Decoder) (byte : UInt8) :
    (decoder.feed byte).AwaitsTail := by
  cases opened : decoder.pending with
  | none =>
      simp only [feed, opened]
      exact awaitsTail_start decoder byte
  | some pending =>
      by_cases inRange : pending.low ≤ byte ∧ byte ≤ pending.high
      · simp only [feed, opened, if_pos inRange]
        split
        · exact awaitsTail_of_settled rfl
        · intro next nextOpened
          injection nextOpened with same
          subst same
          exact ⟨UInt8.le_refl _, UInt8.le_refl _⟩
      · rw [feed_of_broken opened inRange]
        exact awaitsTail_start _ byte

theorem awaitsTail_foldl_feed (bytes : List UInt8) :
    (bytes.foldl feed {}).AwaitsTail := by
  cases bytes using List.reverseRecOn with
  | nil => exact awaitsTail_of_settled rfl
  | append_singleton front last =>
      rw [List.foldl_append]
      exact awaitsTail_feed _ last

/-- A byte that is no tail is read as if what came before had ended there. -/
theorem feed_of_not_isTail
    {decoder : Decoder}
    (awaits : decoder.AwaitsTail)
    {byte : UInt8}
    (notTail : ¬IsTail byte) :
    decoder.feed byte = feed { text := decoder.finish } byte := by
  cases opened : decoder.pending with
  | none =>
      obtain ⟨text, pending⟩ := decoder
      subst opened
      rfl
  | some pending =>
      obtain ⟨lower, upper⟩ := awaits pending opened
      have broken : ¬(pending.low ≤ byte ∧ byte ≤ pending.high) := by
        intro inRange
        exact notTail ⟨UInt8.le_trans lower inRange.1,
          UInt8.le_trans inRange.2 upper⟩
      rw [feed_of_broken opened broken, finish, opened]
      rfl

end Decoder

/-- Whole characters leave nothing pending for the bytes behind them. -/
theorem WellFormed.decodeLossy_append
    {first : List UInt8}
    (formed : WellFormed first)
    (second : List UInt8) :
    decodeLossy (first ++ second) =
      decodeLossy first ++ decodeLossy second := by
  obtain ⟨text, settled, _⟩ := formed.foldl_feed ""
  have own : decodeLossy first = text := by
    rw [decodeLossy, settled]
    rfl
  rw [ArgReport.decodeLossy_append, settled, Decoder.finish_foldl_feed, own]

/-- Bytes that begin with no tail byte are decoded on their own. -/
theorem decodeLossy_append_cons
    {byte : UInt8}
    (notTail : ¬IsTail byte)
    (first rest : List UInt8) :
    decodeLossy (first ++ byte :: rest) =
      decodeLossy first ++ decodeLossy (byte :: rest) := by
  rw [ArgReport.decodeLossy_append, List.foldl_cons,
    Decoder.feed_of_not_isTail (Decoder.awaitsTail_foldl_feed first) notTail,
    ← List.foldl_cons, Decoder.finish_foldl_feed]
  rfl

/-- Whole characters begin with no tail byte. -/
theorem WellFormed.not_isTail_head
    {byte : UInt8}
    {rest : List UInt8}
    (formed : WellFormed (byte :: rest)) :
    ¬IsTail byte := by
  rintro ⟨lower, upper⟩
  cases formed with
  | single ascii _ => exact absurd ascii (UInt8.not_lt.2 lower)
  | several member leads _ _ _ _ =>
      have past := Utf8Shape.tail_lt_of_leads member leads
      exact absurd past (UInt8.not_lt.2 upper)

end ArgReport
