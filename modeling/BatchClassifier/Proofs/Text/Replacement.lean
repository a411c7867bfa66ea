import BatchClassifier.Proofs.Text.Newline

namespace BatchClassifier.Text.Utf8

/-- The bytes before `rest` are no character, but the longest beginning of one that stands there, or else a
single byte. -/
structure IllFormed (part rest : List UInt8) : Prop where
  ne_nil : part ≠ []
  unread : ∀ c, ¬ String.utf8EncodeChar c <+: part ++ rest
  begun : part.length = 1 ∨ ∃ c, part <+: String.utf8EncodeChar c
  longest : ∀ c more, more <+: part ++ rest → more <+: String.utf8EncodeChar c → more.length ≤ part.length

/-- The bytes as characters, with one replacement character for each ill-formed part. -/
inductive Replaced : List UInt8 → List Char → Prop
  | nil : Replaced [] []
  | char {bytes : List UInt8} {text : List Char} (c : Char) (h : Replaced bytes text) :
      Replaced (String.utf8EncodeChar c ++ bytes) (c :: text)
  | ill {part bytes : List UInt8} {text : List Char} (hp : IllFormed part bytes) (h : Replaced bytes text) :
      Replaced (part ++ bytes) ('\uFFFD' :: text)

@[simp] theorem decodeLossy_nil : decodeLossy [] = [] := by rw [decodeLossy, decode, List.map_nil]

theorem exists_follow (n : Nat) {low high : UInt8} (h : low ≤ high) (bits : Nat) :
    ∃ tail v, follow n low high bits tail = (some v, []) := by
  induction n generalizing low high bits with
  | zero => exact ⟨[], bits, rfl⟩
  | succ n ih =>
      have hany : (0x80 : UInt8) ≤ 0xBF := by decide
      obtain ⟨tail, v, hf⟩ := ih hany (bits * 64 + low.toNat % 64)
      refine ⟨low :: tail, v, ?_⟩
      rw [follow, if_pos ⟨UInt8.le_refl low, h⟩, hf]

/-- Bytes that do not make up a character could go on to do so, but not with the byte that follows. -/
theorem of_follow_none {n bits : Nat} {low high : UInt8} (hr : low ≤ high) {bytes rest : List UInt8}
    (h : follow n low high bits bytes = (none, rest)) : ∃ seen, bytes = seen ++ rest ∧
      (∃ tail v, follow n low high bits (seen ++ tail) = (some v, [])) ∧
      ∀ b more, rest.head? = some b → (follow n low high bits (seen ++ b :: more)).1 = none := by
  induction n generalizing low high bits bytes with
  | zero => cases h
  | succ n ih =>
      cases bytes with
      | nil =>
          cases h
          exact ⟨[], rfl, exists_follow (n + 1) hr bits, fun b more hb => by cases hb⟩
      | cons b bytes =>
          rw [follow] at h
          split at h
          · rename_i hb
            obtain ⟨seen, rfl, ⟨tail, v, hgo⟩, hstop⟩ := ih (by decide) h
            refine ⟨b :: seen, rfl, ⟨tail, v, ?_⟩, fun b' more hb' => ?_⟩
            · rw [List.cons_append, follow, if_pos hb, hgo]
            · rw [List.cons_append, follow, if_pos hb, hstop b' more hb']
          · rename_i hb
            cases h
            refine ⟨[], rfl, exists_follow (n + 1) hr bits, fun b' more hb' => ?_⟩
            obtain rfl := Option.some.inj hb'
            rw [List.nil_append, follow, if_neg hb]

theorem next_encodeChar_append {b : UInt8} {more : List UInt8} {c : Char}
    (h : String.utf8EncodeChar c = b :: more) (rest : List UInt8) : next b (more ++ rest) = (some c, rest) := by
  obtain ⟨b', more', hc, hnext⟩ := next_encodeChar c
  obtain ⟨rfl, rfl⟩ := List.cons.inj (h.symm.trans hc)
  exact hnext rest

theorem of_next_none {b : UInt8} {rest rest' : List UInt8} (h : next b rest = (none, rest')) :
    ∃ seen, rest = seen ++ rest' ∧ (seen = [] ∨ ∃ tail c, next b (seen ++ tail) = (some c, [])) ∧
      ∀ b' more, rest'.head? = some b' → (next b (seen ++ b' :: more)).1 = none := by
  cases hl : lead? b with
  | none =>
      have hn : ∀ bytes, next b bytes = (none, bytes) := fun bytes => by rw [next, hl]
      obtain rfl : rest = rest' := congrArg Prod.snd ((hn rest).symm.trans h)
      exact ⟨[], rfl, .inl rfl, fun b' more _ => congrArg Prod.fst (hn _)⟩
  | some l =>
      obtain ⟨v?, hf, hv⟩ := exists_of_next hl h
      obtain rfl := Option.map_eq_none_iff.1 hv
      obtain ⟨seen, rfl, ⟨tail, v, hgo⟩, hstop⟩ := of_follow_none (range_of_lead? hl).2.1 hf
      refine ⟨seen, rfl, .inr ⟨tail, Char.ofNat v, ?_⟩, fun b' more hb' => ?_⟩
      · rw [next_of_lead? hl, hgo]
        rfl
      · rw [next_of_lead? hl, Prod.map_fst, hstop b' more hb']
        rfl

theorem illFormed_of_next {b : UInt8} {rest rest' : List UInt8} (h : next b rest = (none, rest')) :
    ∃ part, b :: rest = part ++ rest' ∧ IllFormed part rest' := by
  obtain ⟨seen, rfl, hbegun, hstop⟩ := of_next_none h
  have hunread : ∀ c, ¬ String.utf8EncodeChar c <+: b :: (seen ++ rest') := by
    rintro c ⟨tail, hc⟩
    obtain ⟨b', more, hb, hnext⟩ := next_encodeChar c
    rw [hb, List.cons_append, List.cons.injEq] at hc
    obtain ⟨rfl, hc⟩ := hc
    rw [← hc, hnext] at h
    cases h
  refine ⟨b :: seen, rfl, List.cons_ne_nil _ _, hunread, ?_, fun c more hm hc => ?_⟩
  · rcases hbegun with rfl | ⟨tail, c, hgo⟩
    · exact .inl rfl
    · refine .inr ⟨c, tail, ?_⟩
      rw [List.cons_append, encodeChar_of_next hgo, List.append_nil]
  · -- Were there a longer one, the byte after `seen` would belong to it.
    by_contra hlt
    obtain ⟨tail, rfl⟩ := List.prefix_of_prefix_length_le (List.prefix_append (b :: seen) rest') hm (by omega)
    cases tail with
    | nil => simp at hlt
    | cons b' tail =>
        obtain ⟨after, rfl⟩ := (List.prefix_append_right_inj _).1 hm
        obtain ⟨last, hc⟩ := hc
        have hbytes : String.utf8EncodeChar c = b :: (seen ++ b' :: (tail ++ last)) := by simp [← hc]
        have hread := next_encodeChar_append hbytes []
        rw [List.append_nil] at hread
        have hnone := hstop b' (tail ++ last) rfl
        rw [hread] at hnone
        cases hnone

theorem replaced_decodeLossy (bytes : List UInt8) : Replaced bytes (decodeLossy bytes) := by
  induction bytes using decode.induct with
  | case1 =>
      rw [decodeLossy_nil]
      exact .nil
  | case2 b rest ih =>
      rw [decodeLossy, decode, List.map_cons, ← decodeLossy]
      generalize hn : next b rest = r at ih
      obtain ⟨c?, rest'⟩ := r
      cases c? with
      | some c =>
          rw [encodeChar_of_next hn]
          exact .char c ih
      | none =>
          obtain ⟨part, hpart, hp⟩ := illFormed_of_next hn
          rw [hpart]
          exact .ill hp ih

theorem IllFormed.length_le {part part' rest rest' : List UInt8} (h : IllFormed part rest)
    (h' : IllFormed part' rest') (he : part ++ rest = part' ++ rest') : part.length ≤ part'.length := by
  rcases h.begun with hone | ⟨c, hc⟩
  · rw [hone]
    exact List.length_pos_iff.2 h'.ne_nil
  · exact h'.longest c part (he ▸ List.prefix_append part rest) hc

theorem IllFormed.decode_append {part rest : List UInt8} (h : IllFormed part rest) :
    decode (part ++ rest) = none :: decode rest := by
  obtain ⟨b, seen, rfl⟩ := List.exists_cons_of_ne_nil h.ne_nil
  rw [List.cons_append, decode]
  generalize hn : next b (seen ++ rest) = r
  obtain ⟨c?, rest'⟩ := r
  cases c? with
  | some c => exact absurd ⟨rest', (encodeChar_of_next hn).symm⟩ (h.unread c)
  | none =>
      obtain ⟨part, hpart, hp⟩ := illFormed_of_next hn
      have hlen := Nat.le_antisymm (h.length_le hp hpart) (hp.length_le h hpart.symm)
      rw [(List.append_inj hpart hlen).2]

theorem replaced_iff {bytes : List UInt8} {text : List Char} : Replaced bytes text ↔ text = decodeLossy bytes := by
  constructor
  · intro h
    induction h with
    | nil => rw [decodeLossy_nil]
    | @char bytes text c _ ih =>
        have hdecode := decode_encode_append [c] bytes
        rw [encode, List.flatMap_singleton] at hdecode
        rw [decodeLossy, hdecode, ih]
        rfl
    | ill hp _ ih =>
        rw [decodeLossy, hp.decode_append, ih]
        rfl
  · rintro rfl
    exact replaced_decodeLossy bytes

section

variable {b : UInt8} (hb : b < 0x80)

include hb

theorem follow_append_ascii {low : UInt8} (hl : 0x80 ≤ low) (n : Nat) (high : UInt8) (bits : Nat)
    (bytes rest : List UInt8) : follow n low high bits (bytes ++ b :: rest) =
      Prod.map id (· ++ b :: rest) (follow n low high bits bytes) := by
  induction n generalizing low high bits bytes with
  | zero => rfl
  | succ n ih =>
      cases bytes with
      | nil =>
          have hn : ¬ (low ≤ b ∧ b ≤ high) := fun h => UInt8.not_le.2 hb (UInt8.le_trans hl h.1)
          have hstop : follow (n + 1) low high bits (b :: rest) = (none, b :: rest) := by rw [follow, if_neg hn]
          rw [List.nil_append, hstop]
          rfl
      | cons first bytes =>
          rw [List.cons_append, follow, follow]
          split
          · exact ih (by decide) ..
          · rfl

theorem next_append_ascii (first : UInt8) (bytes rest : List UInt8) :
    next first (bytes ++ b :: rest) = Prod.map id (· ++ b :: rest) (next first bytes) := by
  cases hl : lead? first with
  | none =>
      rw [next, next, hl]
      rfl
  | some l =>
      rw [next_of_lead? hl, next_of_lead? hl, follow_append_ascii hb (range_of_lead? hl).1]
      rfl

theorem lead?_ascii : lead? b = some ⟨0, 0x80, 0xBF, b.toNat⟩ := if_pos hb

theorem decode_append_ascii (bytes rest : List UInt8) :
    decode (bytes ++ b :: rest) = decode bytes ++ some (Char.ofNat b.toNat) :: decode rest := by
  have hread : decode (b :: rest) = some (Char.ofNat b.toNat) :: decode rest := by
    rw [decode, next_of_lead? (lead?_ascii hb)]
    rfl
  induction bytes using decode.induct with
  | case1 => rw [List.nil_append, hread, decode, List.nil_append]
  | case2 first bytes ih =>
      rw [List.cons_append, decode, next_append_ascii hb, Prod.map_snd, ih, decode]
      rfl

theorem decodeLossy_append_ascii (bytes rest : List UInt8) :
    decodeLossy (bytes ++ b :: rest) = decodeLossy bytes ++ Char.ofNat b.toNat :: decodeLossy rest := by
  rw [decodeLossy, decode_append_ascii hb, List.map_append]
  rfl

theorem encodeChar_ascii : String.utf8EncodeChar (Char.ofNat b.toNat) = [b] := by
  rw [encodeChar_one (UInt8.lt_iff_toNat_lt.1 hb), UInt8.ofNat_toNat]

theorem decodeLossy_concat_ascii (bytes : List UInt8) :
    decodeLossy (bytes ++ [b]) = decodeLossy bytes ++ [Char.ofNat b.toNat] := by
  rw [decodeLossy_append_ascii hb, decodeLossy_nil]

theorem getLast?_decodeLossy (bytes : List UInt8) :
    (decodeLossy bytes).getLast? = some (Char.ofNat b.toNat) ↔ bytes.getLast? = some b := by
  constructor
  · intro h
    rw [decodeLossy, List.getLast?_map, Option.map_eq_some_iff] at h
    obtain ⟨c?, hlast, hc⟩ := h
    cases c? with
    | none =>
        have hbyte := encodeChar_ascii hb
        rw [← hc] at hbyte
        have hlength : 3 = 1 := congrArg List.length hbyte
        omega
    | some c =>
        obtain rfl : c = Char.ofNat b.toNat := hc
        obtain ⟨front, rfl⟩ := encodeChar_suffix_of_getLast?_decode hlast
        rw [encodeChar_ascii hb, List.getLast?_concat]
  · intro h
    obtain ⟨front, rfl⟩ := List.getLast?_eq_some_iff.1 h
    rw [decodeLossy_concat_ascii hb, List.getLast?_concat]

theorem decodeLossy_chop (bytes : List UInt8) :
    decodeLossy (chop b bytes) = chop (Char.ofNat b.toNat) (decodeLossy bytes) := by
  by_cases h : bytes.getLast? = some b
  · obtain ⟨front, rfl⟩ := List.getLast?_eq_some_iff.1 h
    rw [chop_concat, decodeLossy_concat_ascii hb, chop_concat]
  · rw [chop, if_neg h, chop, if_neg (mt (getLast?_decodeLossy hb bytes).1 h)]

end

end BatchClassifier.Text.Utf8
