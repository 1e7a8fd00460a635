/-!
# Text in byte order

Text is ordered by code point.  As UTF-8 keeps this order, character by character
(`utf8EncodeChar_append_lt`), it is also the order of the bytes of texts (`lt_iff_utf8_lt`), in
which `"10"` comes before `"2"`.
-/

namespace NodeAlerts.Text

/-- The bytes of a text. -/
def utf8 (s : String) : List UInt8 := s.toUTF8.data.toList

theorem utf8_eq_flatMap (s : String) : utf8 s = s.toList.flatMap String.utf8EncodeChar := by
  rw [utf8, String.toUTF8, ← String.utf8Encode_toList, List.utf8Encode,
    List.toList_data_toByteArray]

/-- Of two numbers the one is less than the other in all but the last digit, or in the last. -/
theorem div_lt_or_mod_lt {m n : Nat} (h : m < n) (b : Nat) :
    m / b < n / b ∨ m / b = n / b ∧ m % b < n % b := by
  rcases Nat.lt_or_eq_of_le (Nat.div_le_div_right (Nat.le_of_lt h)) with hlt | heq
  · exact Or.inl hlt
  · refine Or.inr ⟨heq, ?_⟩
    have hm := Nat.div_add_mod m b
    have hn := Nat.div_add_mod n b
    rw [heq] at hm
    omega

/-- A greater character has greater bytes, whatever comes behind either: a longer encoding starts
with a greater byte, and encodings of one length differ first in a digit to the base 64. -/
theorem utf8EncodeChar_append_lt {c d : Char} (h : c < d) (xs ys : List UInt8) :
    String.utf8EncodeChar c ++ xs < String.utf8EncodeChar d ++ ys := by
  have hlt : c.val.toNat < d.val.toNat := UInt32.lt_iff_toNat_lt.1 (Char.lt_def.1 h)
  have hd : d.val.toNat < 0x110000 := by
    have := d.valid
    simp only [UInt32.isValidChar, Nat.isValidChar] at this
    omega
  simp only [String.utf8EncodeChar]
  generalize c.val.toNat = m at hlt
  generalize d.val.toNat = n at hlt hd
  have hfirst := div_lt_or_mod_lt hlt 64
  have hsecond : m / 64 < n / 64 → _ := fun h => div_lt_or_mod_lt h 64
  have hthird : m / 4096 < n / 4096 → _ := fun h => div_lt_or_mod_lt h 64
  simp only [Nat.div_div_eq_div_mul, Nat.reduceMul] at hsecond hthird
  have hm : m / 262144 % 8 = m / 262144 := Nat.mod_eq_of_lt (by omega)
  have hn : n / 262144 % 8 = n / 262144 := Nat.mod_eq_of_lt (by omega)
  rw [hm, hn]
  have hbyte : ∀ k : Nat, k < 256 → (UInt8.ofNat k).toNat = k :=
    fun k hk => UInt8.toNat_ofNat_of_lt' hk
  repeat' split
  all_goals
    simp (disch := omega) only [List.cons_append, List.nil_append, List.cons_lt_cons_iff,
      UInt8.lt_iff_toNat_lt, ← UInt8.toNat_inj, hbyte]
    omega

theorem flatMap_utf8EncodeChar_lt {cs ds : List Char} (h : cs < ds) :
    cs.flatMap String.utf8EncodeChar < ds.flatMap String.utf8EncodeChar := by
  induction cs generalizing ds with
  | nil =>
      cases ds with
      | nil => exact absurd h (List.lt_irrefl _)
      | cons d rest =>
          have hsome : 0 < (String.utf8EncodeChar d).length := by
            rw [String.length_utf8EncodeChar]
            exact Char.utf8Size_pos d
          obtain ⟨b, bs, hbytes⟩ := List.exists_cons_of_length_pos hsome
          rw [List.flatMap_nil, List.flatMap_cons, hbytes]
          exact List.nil_lt_cons ..
  | cons c cs ih =>
      cases ds with
      | nil => exact absurd h (List.not_lt_nil _)
      | cons d ds =>
          rw [List.flatMap_cons, List.flatMap_cons]
          rcases List.cons_lt_cons_iff.1 h with hlt | ⟨rfl, hlt⟩
          · exact utf8EncodeChar_append_lt hlt _ _
          · exact List.append_left_lt (ih hlt)

theorem utf8_lt_utf8 {s t : String} (h : s < t) : utf8 s < utf8 t := by
  rw [utf8_eq_flatMap, utf8_eq_flatMap]
  exact flatMap_utf8EncodeChar_lt h

/-- **Text is ordered by its bytes.** -/
theorem lt_iff_utf8_lt (s t : String) : s < t ↔ utf8 s < utf8 t := by
  refine ⟨utf8_lt_utf8, fun h => ?_⟩
  by_cases hst : s < t
  · exact hst
  · by_cases hts : t < s
    · exact absurd (utf8_lt_utf8 hts) (List.lt_asymm h)
    · have heq : s = t := String.le_antisymm (String.not_lt.1 hts) (String.not_lt.1 hst)
      rw [heq] at h
      exact absurd h (List.lt_irrefl _)

example : utf8 "10" < utf8 "2" := by decide

end NodeAlerts.Text
