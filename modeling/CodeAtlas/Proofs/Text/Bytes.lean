import CodeAtlas.Text.Bytes

/-!
# Bytes and the text they are shown as

Bytes that encode a text are shown as that text (`shown_utf8`). Bytes that encode none can be shown
as one that others are shown as too. Whatever they are, they are shown as something if there are
any (`shown_ne_nil`), and with a slash only if they have one (`slash_not_mem_shown`).
-/

namespace CodeAtlas.Text

theorem utf8_cons (c : Char) (s : Text) : utf8 (c :: s) = String.utf8EncodeChar c ++ utf8 s := rfl

/-- The bytes of a character are shown as the character, whatever comes after them. -/
theorem shown_utf8EncodeChar_append (c : Char) (bs : Bytes) :
    shown (String.utf8EncodeChar c ++ bs) = c :: shown bs := by
  obtain ⟨b, rest, hb⟩ := List.exists_cons_of_ne_nil (String.utf8EncodeChar_ne_nil (c := c))
  have hdecode : (b :: (rest ++ bs)).toByteArray.utf8DecodeChar? 0 = some c := by
    rw [← List.cons_append, ← hb, List.toByteArray_append]
    exact ByteArray.utf8DecodeChar?_utf8EncodeChar_append
  have hdrop : (b :: (rest ++ bs)).drop c.utf8Size = bs := by
    rw [← List.cons_append, ← hb, ← String.length_utf8EncodeChar, List.drop_left]
  rw [hb, List.cons_append, shown, hdecode]
  simp only [hdrop]

/-- Bytes that encode a text are shown as it. -/
@[simp] theorem shown_utf8 (s : Text) : shown (utf8 s) = s := by
  induction s with
  | nil => rw [utf8, List.flatMap_nil, shown]
  | cons c s ih => rw [utf8_cons, shown_utf8EncodeChar_append, ih]

/-- A character of four bytes that breaks off after three is replaced once, as is a byte that begins
none. -/
example : shown [0x61, 0xF0, 0x9F, 0x92, 0xFF, 0x62] = ['a', '\ufffd', '\ufffd', 'b'] := by
  decide +kernel

theorem shown_ne_nil {bs : Bytes} (h : bs ≠ []) : shown bs ≠ [] := by
  obtain ⟨b, bs, rfl⟩ := List.exists_cons_of_ne_nil h
  rw [shown]
  split <;> exact List.cons_ne_nil _ _

/-- The character at the front of some bytes is encoded there. -/
theorem prefix_of_utf8DecodeChar? {bs : Bytes} {c : Char}
    (h : bs.toByteArray.utf8DecodeChar? 0 = some c) : String.utf8EncodeChar c <+: bs := by
  obtain ⟨rest, hrest⟩ := ByteArray.exists_of_utf8DecodeChar?_eq_some h
  refine ⟨rest.data.toList, List.toByteArray_inj.mp ?_⟩
  rw [List.toByteArray_append, hrest]
  simp [ByteArray.ext_iff]

theorem utf8EncodeChar_slash : String.utf8EncodeChar '/' = [0x2F] := by decide

/-- Only a slash is shown as one. -/
theorem slash_not_mem_shown {bs : Bytes} (h : 0x2F ∉ bs) : '/' ∉ shown bs := by
  fun_induction shown bs with
  | case1 => exact List.not_mem_nil
  | case2 b bs c hc ih =>
    have hmem : ∀ x ∈ String.utf8EncodeChar c, x ≠ 0x2F := fun x hx hslash =>
      h (hslash ▸ (prefix_of_utf8DecodeChar? hc).subset hx)
    rw [List.mem_cons, not_or]
    refine ⟨?_, ih fun hd => h (List.mem_of_mem_drop hd)⟩
    rintro rfl
    exact hmem 0x2F (by rw [utf8EncodeChar_slash]; exact List.mem_singleton_self _) rfl
  | case3 b bs hc ih =>
    rw [List.mem_cons, not_or]
    exact ⟨by decide, ih fun hd => h (List.mem_of_mem_drop hd)⟩

/-- The bytes of a text begin with a slash just when the text does. -/
theorem head?_utf8_eq_slash {s : Text} : (utf8 s).head? = some 0x2F ↔ s.head? = some '/' := by
  constructor
  · intro h
    obtain ⟨bs, hbs⟩ := List.head?_eq_some_iff.mp h
    have hs : shown (utf8 s) = '/' :: shown bs := by
      rw [hbs, ← shown_utf8EncodeChar_append, utf8EncodeChar_slash]
      rfl
    rw [shown_utf8] at hs
    rw [hs]
    rfl
  · intro h
    obtain ⟨t, rfl⟩ := List.head?_eq_some_iff.mp h
    rw [utf8_cons, utf8EncodeChar_slash]
    rfl

end CodeAtlas.Text
