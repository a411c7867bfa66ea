import BatchClassifier.Text.Utf8
import Mathlib.Tactic.IntervalCases
import Mathlib.Data.List.Basic

namespace BatchClassifier.Text.Utf8

theorem lead?_one {m : Nat} (h : m < 128) : lead? (UInt8.ofNat m) = some ⟨0, 0x80, 0xBF, m⟩ := by
  have hm : (UInt8.ofNat m).toNat = m := by simp; omega
  have hb : UInt8.ofNat m < 0x80 := by rw [UInt8.lt_iff_toNat_lt, hm]; exact h
  rw [lead?, if_pos hb, hm]

theorem lead?_two {m : Nat} (hl : 2 ≤ m) (h : m < 32) :
    lead? (UInt8.ofNat (m + 192)) = some ⟨1, 0x80, 0xBF, m⟩ := by
  interval_cases m <;> rfl

theorem lead?_three {m : Nat} (h : m < 16) : lead? (UInt8.ofNat (m + 224)) =
    some ⟨2, if m = 0 then 0xA0 else 0x80, if m = 13 then 0x9F else 0xBF, m⟩ := by
  interval_cases m <;> rfl

theorem lead?_four {m : Nat} (h : m < 5) : lead? (UInt8.ofNat (m + 240)) =
    some ⟨3, if m = 0 then 0x90 else 0x80, if m = 4 then 0x8F else 0xBF, m⟩ := by
  interval_cases m <;> rfl

theorem follow_cons {m : Nat} (hm : m < 64) {low high : UInt8} (hl : low.toNat ≤ m + 128)
    (hh : m + 128 ≤ high.toNat) (n bits : Nat) (rest : List UInt8) :
    follow (n + 1) low high bits (UInt8.ofNat (m + 128) :: rest) =
      follow n 0x80 0xBF (bits * 64 + m) rest := by
  have hb : (UInt8.ofNat (m + 128)).toNat = m + 128 := by simp; omega
  have hrange : low ≤ UInt8.ofNat (m + 128) ∧ UInt8.ofNat (m + 128) ≤ high := by
    rw [UInt8.le_iff_toNat_le, UInt8.le_iff_toNat_le, hb]
    exact ⟨hl, hh⟩
  have hbits : (m + 128) % 64 = m := by omega
  rw [follow, if_pos hrange, hb, hbits]

theorem follow_cons_any {m : Nat} (hm : m < 64) (n bits : Nat) (rest : List UInt8) :
    follow (n + 1) 0x80 0xBF bits (UInt8.ofNat (m + 128) :: rest) =
      follow n 0x80 0xBF (bits * 64 + m) rest := by
  have hl : (0x80 : UInt8).toNat ≤ m + 128 := Nat.le_add_left 128 m
  have hh : m + 128 ≤ (0xBF : UInt8).toNat := by
    show _ ≤ 191
    omega
  exact follow_cons hm hl hh n bits rest

theorem next_of_lead? {b : UInt8} {l : Lead} (h : lead? b = some l) (rest : List UInt8) :
    next b rest = Prod.map (Option.map Char.ofNat) id (follow l.follow l.low l.high l.bits rest) := by
  rw [next, h]
  rfl

theorem next_encodeChar (c : Char) : ∃ b more, String.utf8EncodeChar c = b :: more ∧
    ∀ rest, next b (more ++ rest) = (some c, rest) := by
  have hchar : Char.ofNat c.val.toNat = c := Char.ofNat_toNat c
  have hvalid : c.val.toNat < 0xD800 ∨ 0xDFFF < c.val.toNat ∧ c.val.toNat < 0x110000 := c.valid
  simp only [String.utf8EncodeChar]
  generalize c.val.toNat = v at hchar hvalid ⊢
  have hmod : ∀ n, n % 64 < 64 := fun n => Nat.mod_lt n (by decide)
  -- One case per number of bytes. The range of the byte after the first leaves out the values for which
  -- fewer bytes would do, and the surrogates.
  split_ifs with h1 h2 h3
  · refine ⟨_, _, rfl, fun rest => ?_⟩
    rw [next_of_lead? (lead?_one (by omega))]
    simp [follow, hchar]
  · refine ⟨_, _, rfl, fun rest => ?_⟩
    have hv : v / 64 % 32 * 64 + v % 64 = v := by omega
    rw [next_of_lead? (lead?_two (by omega) (by omega)), List.cons_append, follow_cons_any (hmod v), hv]
    simp [follow, hchar]
  · refine ⟨_, _, rfl, fun rest => ?_⟩
    have hv : (v / 4096 % 16 * 64 + v / 64 % 64) * 64 + v % 64 = v := by omega
    have hlow : (if v / 4096 % 16 = 0 then (0xA0 : UInt8) else 0x80).toNat ≤ v / 64 % 64 + 128 := by
      split
      · show 160 ≤ _
        omega
      · exact Nat.le_add_left 128 _
    have hhigh : v / 64 % 64 + 128 ≤ (if v / 4096 % 16 = 13 then (0x9F : UInt8) else 0xBF).toNat := by
      split
      · show _ ≤ 159
        omega
      · show _ ≤ 191
        omega
    rw [next_of_lead? (lead?_three (by omega)), List.cons_append, List.cons_append,
      follow_cons (hmod _) hlow hhigh, follow_cons_any (hmod v), hv]
    simp [follow, hchar]
  · refine ⟨_, _, rfl, fun rest => ?_⟩
    have hv : ((v / 262144 % 8 * 64 + v / 4096 % 64) * 64 + v / 64 % 64) * 64 + v % 64 = v := by omega
    have hlow : (if v / 262144 % 8 = 0 then (0x90 : UInt8) else 0x80).toNat ≤ v / 4096 % 64 + 128 := by
      split
      · show 144 ≤ _
        omega
      · exact Nat.le_add_left 128 _
    have hhigh : v / 4096 % 64 + 128 ≤ (if v / 262144 % 8 = 4 then (0x8F : UInt8) else 0xBF).toNat := by
      split
      · show _ ≤ 143
        omega
      · show _ ≤ 191
        omega
    rw [next_of_lead? (lead?_four (by omega)), List.cons_append, List.cons_append, List.cons_append,
      follow_cons (hmod _) hlow hhigh, follow_cons_any (hmod _), follow_cons_any (hmod v), hv]
    simp [follow, hchar]

theorem decode_encode_append (text : List Char) (bytes : List UInt8) :
    decode (encode text ++ bytes) = text.map some ++ decode bytes := by
  induction text with
  | nil => rfl
  | cons c text ih =>
      obtain ⟨b, more, hc, hnext⟩ := next_encodeChar c
      have hbytes : encode (c :: text) ++ bytes = b :: (more ++ (encode text ++ bytes)) := by
        rw [encode, List.flatMap_cons, hc, ← encode, List.append_assoc, List.cons_append]
      rw [hbytes, decode, hnext, ih, List.map_cons, List.cons_append]

theorem decode_encode (text : List Char) : decode (encode text) = text.map some := by
  have h := decode_encode_append text []
  rwa [List.append_nil, decode, List.append_nil] at h

theorem decode?_encode (text : List Char) : decode? (encode text) = some text := by
  rw [decode?, decode_encode, List.mapM_map]
  exact (List.mapM_pure (f := id)).trans (congrArg some (List.map_id text))

theorem decodeLossy_encode (text : List Char) : decodeLossy (encode text) = text := by
  rw [decodeLossy, decode_encode, List.map_map]
  exact List.map_id text

theorem encode_append (text more : List Char) : encode (text ++ more) = encode text ++ encode more :=
  List.flatMap_append

theorem eq_of_mem_encodeChar {c : Char} {b : UInt8} (h : b ∈ String.utf8EncodeChar c) (hb : b < 128) :
    c = Char.ofNat b.toNat := by
  have hb : b.toNat < 128 := UInt8.lt_iff_toNat_lt.1 hb
  have hchar : Char.ofNat c.val.toNat = c := Char.ofNat_toNat c
  have hn : ∀ m, 128 ≤ m → m < 256 → b ≠ UInt8.ofNat m := by
    rintro m hl hh rfl
    rw [UInt8.toNat_ofNat'] at hb
    omega
  simp only [String.utf8EncodeChar] at h
  generalize c.val.toNat = v at h hchar
  split_ifs at h with h1 h2 h3
  · have hv : v % 256 = v := by omega
    rw [List.mem_singleton.1 h, UInt8.toNat_ofNat', hv, hchar]
  · simp only [List.mem_cons, List.not_mem_nil, or_false] at h
    rcases h with h | h <;> exact absurd h (hn _ (by omega) (by omega))
  · simp only [List.mem_cons, List.not_mem_nil, or_false] at h
    rcases h with h | h | h <;> exact absurd h (hn _ (by omega) (by omega))
  · simp only [List.mem_cons, List.not_mem_nil, or_false] at h
    rcases h with h | h | h | h <;> exact absurd h (hn _ (by omega) (by omega))

theorem mem_of_mem_encode {text : List Char} {b : UInt8} (h : b ∈ encode text) (hb : b < 128) :
    Char.ofNat b.toNat ∈ text := by
  obtain ⟨c, hc, hbyte⟩ := List.mem_flatMap.1 h
  rwa [← eq_of_mem_encodeChar hbyte hb]

theorem getLast?_of_getLast?_encode {text : List Char} {b : UInt8} (h : (encode text).getLast? = some b)
    (hb : b < 128) : text.getLast? = some (Char.ofNat b.toNat) := by
  rcases List.eq_nil_or_concat' text with rfl | ⟨front, c, rfl⟩
  · cases h
  · have hlast : (String.utf8EncodeChar c).getLast? = some b := by
      obtain ⟨first, more, hc, -⟩ := next_encodeChar c
      rw [encode_append, List.getLast?_append] at h
      simpa [encode, hc] using h
    rw [List.getLast?_concat, eq_of_mem_encodeChar (List.mem_of_getLast? hlast) hb]

theorem suffix_follow (n : Nat) (low high : UInt8) (bits : Nat) (bytes : List UInt8) :
    (follow n low high bits bytes).2 <:+ bytes := by
  induction n generalizing low high bits bytes with
  | zero => exact List.suffix_rfl
  | succ n ih =>
      cases bytes with
      | nil => exact List.suffix_rfl
      | cons b bytes =>
          rw [follow]
          split
          · exact (ih ..).trans (List.suffix_cons b bytes)
          · exact List.suffix_rfl

theorem suffix_next (b : UInt8) (rest : List UInt8) : (next b rest).2 <:+ rest := by
  rw [next]
  split
  · exact List.suffix_rfl
  · exact suffix_follow ..

theorem eq_ofNat_of_le {b : UInt8} {k : Nat} (h : k ≤ b.toNat) : b = UInt8.ofNat (b.toNat - k + k) := by
  rw [Nat.sub_add_cancel h, UInt8.ofNat_toNat]

theorem lead?_cases {b : UInt8} {l : Lead} (h : lead? b = some l) :
    (∃ m < 128, b = UInt8.ofNat m) ∨ (∃ m, 2 ≤ m ∧ m < 32 ∧ b = UInt8.ofNat (m + 192)) ∨
      (∃ m < 16, b = UInt8.ofNat (m + 224)) ∨ ∃ m < 5, b = UInt8.ofNat (m + 240) := by
  simp only [lead?, UInt8.lt_iff_toNat_lt, ← UInt8.toNat_inj] at h
  simp only [UInt8.reduceToNat] at h
  by_cases h1 : b.toNat < 128
  · exact .inl ⟨b.toNat, h1, UInt8.ofNat_toNat.symm⟩
  rw [if_neg h1] at h
  by_cases h2 : b.toNat < 194
  · rw [if_pos h2] at h
    cases h
  by_cases h3 : b.toNat < 224
  · exact .inr (.inl ⟨b.toNat - 192, by omega, by omega, eq_ofNat_of_le (by omega)⟩)
  by_cases h4 : b.toNat < 240
  · exact .inr (.inr (.inl ⟨b.toNat - 224, by omega, eq_ofNat_of_le (by omega)⟩))
  by_cases h5 : b.toNat < 245
  · exact .inr (.inr (.inr ⟨b.toNat - 240, by omega, eq_ofNat_of_le (by omega)⟩))
  · split_ifs at h <;> omega

theorem range_of_lead? {b : UInt8} {l : Lead} (h : lead? b = some l) :
    0x80 ≤ l.low ∧ l.low ≤ l.high ∧ l.high ≤ 0xBF := by
  rw [lead?] at h
  split_ifs at h <;> cases h <;> dsimp only <;> decide

theorem exists_of_follow {n bits v : Nat} {low high : UInt8} {bytes rest : List UInt8} (hl : 0x80 ≤ low)
    (hh : high ≤ 0xBF) (h : follow (n + 1) low high bits bytes = (some v, rest)) :
    ∃ m < 64, ∃ more, bytes = UInt8.ofNat (m + 128) :: more ∧ low.toNat ≤ m + 128 ∧ m + 128 ≤ high.toNat ∧
      follow n 0x80 0xBF (bits * 64 + m) more = (some v, rest) := by
  cases bytes with
  | nil => simp [follow] at h
  | cons b more =>
      rw [follow] at h
      split at h
      · rename_i hb
        have hlow := UInt8.le_iff_toNat_le.1 hb.1
        have hhigh := UInt8.le_iff_toNat_le.1 hb.2
        have h80 : 128 ≤ low.toNat := UInt8.le_iff_toNat_le.1 hl
        have hBF : high.toNat ≤ 191 := UInt8.le_iff_toNat_le.1 hh
        have hm : b.toNat % 64 = b.toNat - 128 := by omega
        rw [hm] at h
        have hb : b = UInt8.ofNat (b.toNat - 128 + 128) := eq_ofNat_of_le (by omega)
        exact ⟨b.toNat - 128, by omega, more, congrArg (· :: more) hb, by omega, by omega, h⟩
      · cases h

theorem exists_of_follow_any {n bits v : Nat} {bytes rest : List UInt8}
    (h : follow (n + 1) 0x80 0xBF bits bytes = (some v, rest)) :
    ∃ m < 64, ∃ more, bytes = UInt8.ofNat (m + 128) :: more ∧
      follow n 0x80 0xBF (bits * 64 + m) more = (some v, rest) := by
  obtain ⟨m, hm, more, hb, -, -, hf⟩ := exists_of_follow (by decide) (by decide) h
  exact ⟨m, hm, more, hb, hf⟩

theorem val_ofNat {v : Nat} (hv : v < 0xD800 ∨ 0xDFFF < v ∧ v < 0x110000) : (Char.ofNat v).val.toNat = v := by
  rw [Char.ofNat, dif_pos hv]
  rfl

theorem encodeChar_one {m : Nat} (hm : m < 128) : String.utf8EncodeChar (Char.ofNat m) = [UInt8.ofNat m] := by
  simp only [String.utf8EncodeChar]
  rw [val_ofNat (by omega), if_pos (by omega)]

theorem encodeChar_two {m p : Nat} (hl : 2 ≤ m) (hm : m < 32) (hp : p < 64) :
    String.utf8EncodeChar (Char.ofNat (m * 64 + p)) = [UInt8.ofNat (m + 192), UInt8.ofNat (p + 128)] := by
  simp only [String.utf8EncodeChar]
  rw [val_ofNat (by omega), if_neg (by omega), if_pos (by omega)]
  have h1 : (m * 64 + p) / 64 % 32 = m := by omega
  have h2 : (m * 64 + p) % 64 = p := by omega
  rw [h1, h2]

theorem encodeChar_three {m p q : Nat} (hm : m < 16) (hp : p < 64) (hq : q < 64)
    (h0 : m = 0 → 32 ≤ p) (h13 : m = 13 → p < 32) :
    String.utf8EncodeChar (Char.ofNat ((m * 64 + p) * 64 + q)) =
      [UInt8.ofNat (m + 224), UInt8.ofNat (p + 128), UInt8.ofNat (q + 128)] := by
  simp only [String.utf8EncodeChar]
  rw [val_ofNat (by omega), if_neg (by omega), if_neg (by omega), if_pos (by omega)]
  have h1 : ((m * 64 + p) * 64 + q) / 4096 % 16 = m := by omega
  have h2 : ((m * 64 + p) * 64 + q) / 64 % 64 = p := by omega
  have h3 : ((m * 64 + p) * 64 + q) % 64 = q := by omega
  rw [h1, h2, h3]

theorem encodeChar_four {m p q r : Nat} (hm : m < 5) (hp : p < 64) (hq : q < 64) (hr : r < 64)
    (h0 : m = 0 → 16 ≤ p) (h4 : m = 4 → p < 16) :
    String.utf8EncodeChar (Char.ofNat (((m * 64 + p) * 64 + q) * 64 + r)) =
      [UInt8.ofNat (m + 240), UInt8.ofNat (p + 128), UInt8.ofNat (q + 128), UInt8.ofNat (r + 128)] := by
  simp only [String.utf8EncodeChar]
  rw [val_ofNat (by omega), if_neg (by omega), if_neg (by omega), if_neg (by omega)]
  have h1 : (((m * 64 + p) * 64 + q) * 64 + r) / 262144 % 8 = m := by omega
  have h2 : (((m * 64 + p) * 64 + q) * 64 + r) / 4096 % 64 = p := by omega
  have h3 : (((m * 64 + p) * 64 + q) * 64 + r) / 64 % 64 = q := by omega
  have h4 : (((m * 64 + p) * 64 + q) * 64 + r) % 64 = r := by omega
  rw [h1, h2, h3, h4]

theorem exists_of_next {b : UInt8} {l : Lead} (hl : lead? b = some l) {rest rest' : List UInt8} {c? : Option Char}
    (h : next b rest = (c?, rest')) :
    ∃ v?, follow l.follow l.low l.high l.bits rest = (v?, rest') ∧ v?.map Char.ofNat = c? := by
  rw [next_of_lead? hl] at h
  have hrest := congrArg Prod.snd h
  exact ⟨_, Prod.ext rfl hrest, congrArg Prod.fst h⟩

theorem encodeChar_of_next {b : UInt8} {rest rest' : List UInt8} {c : Char}
    (h : next b rest = (some c, rest')) : b :: rest = String.utf8EncodeChar c ++ rest' := by
  cases hl : lead? b with
  | none => simp [next, hl] at h
  | some l =>
      obtain ⟨hlow, -, hhigh⟩ := range_of_lead? hl
      obtain ⟨v?, hf, hv⟩ := exists_of_next hl h
      obtain ⟨v, rfl, rfl⟩ := Option.map_eq_some_iff.1 hv
      -- The range of the second byte is what the value needs in order not to be encoded otherwise.
      rcases lead?_cases hl with ⟨m, hm, rfl⟩ | ⟨m, hl2, hm, rfl⟩ | ⟨m, hm, rfl⟩ | ⟨m, hm, rfl⟩
      · obtain rfl := Option.some.inj (hl.symm.trans (lead?_one hm))
        cases hf
        rw [encodeChar_one hm]
        rfl
      · obtain rfl := Option.some.inj (hl.symm.trans (lead?_two hl2 hm))
        obtain ⟨p, hp, more, rfl, hp'⟩ := exists_of_follow_any hf
        cases hp'
        rw [encodeChar_two hl2 hm hp]
        rfl
      · obtain rfl := Option.some.inj (hl.symm.trans (lead?_three hm))
        obtain ⟨p, hp, more, rfl, hpl, hph, hp'⟩ := exists_of_follow hlow hhigh hf
        obtain ⟨q, hq, more, rfl, hq'⟩ := exists_of_follow_any hp'
        cases hq'
        have h0 : m = 0 → 32 ≤ p := by
          rintro rfl
          have hle : 160 ≤ p + 128 := hpl
          omega
        have h13 : m = 13 → p < 32 := by
          rintro rfl
          have hle : p + 128 ≤ 159 := hph
          omega
        rw [encodeChar_three hm hp hq h0 h13]
        rfl
      · obtain rfl := Option.some.inj (hl.symm.trans (lead?_four hm))
        obtain ⟨p, hp, more, rfl, hpl, hph, hp'⟩ := exists_of_follow hlow hhigh hf
        obtain ⟨q, hq, more, rfl, hq'⟩ := exists_of_follow_any hp'
        obtain ⟨r, hr, more, rfl, hr'⟩ := exists_of_follow_any hq'
        cases hr'
        have h0 : m = 0 → 16 ≤ p := by
          rintro rfl
          have hle : 144 ≤ p + 128 := hpl
          omega
        have h4 : m = 4 → p < 16 := by
          rintro rfl
          have hle : p + 128 ≤ 143 := hph
          omega
        rw [encodeChar_four hm hp hq hr h0 h4]
        rfl

theorem encodeChar_infix_of_mem_decode {bytes : List UInt8} {c : Char} (h : some c ∈ decode bytes) :
    String.utf8EncodeChar c <:+: bytes := by
  induction bytes using decode.induct with
  | case1 => simp [decode] at h
  | case2 b rest ih =>
      rw [decode] at h
      rcases List.mem_cons.1 h with hb | hrest
      · have hc : next b rest = (some c, (next b rest).2) := Prod.ext hb.symm rfl
        exact (encodeChar_of_next hc ▸ List.prefix_append _ _).isInfix
      · exact (ih hrest).trans ((suffix_next b rest).trans (List.suffix_cons b rest)).isInfix

theorem encodeChar_suffix_of_getLast?_decode {bytes : List UInt8} {c : Char}
    (h : (decode bytes).getLast? = some (some c)) : String.utf8EncodeChar c <:+ bytes := by
  induction bytes using decode.induct with
  | case1 => simp [decode] at h
  | case2 b rest ih =>
      rw [decode] at h
      cases hrest : (next b rest).2 with
      | nil =>
          rw [hrest, decode, List.getLast?_singleton, Option.some.injEq] at h
          have hc : next b rest = (some c, []) := Prod.ext h hrest
          have hb := encodeChar_of_next hc
          rw [List.append_nil] at hb
          exact ⟨[], hb.symm⟩
      | cons b' rest' =>
          rw [List.getLast?_cons_of_ne_nil (by simp [hrest, decode])] at h
          exact (ih h).trans ((suffix_next b rest).trans (List.suffix_cons b rest))

theorem newline_mem_of_decodeLossy {bytes : List UInt8} (h : '\n' ∈ decodeLossy bytes) :
    (10 : UInt8) ∈ bytes := by
  obtain ⟨c?, hc, hn⟩ := List.mem_map.1 h
  cases c? with
  | none => exact absurd hn (by decide)
  | some c =>
      obtain rfl : c = '\n' := hn
      exact (encodeChar_infix_of_mem_decode hc).subset (by decide)

end BatchClassifier.Text.Utf8
