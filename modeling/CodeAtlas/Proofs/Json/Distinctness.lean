import CodeAtlas.Json.Printer
import CodeAtlas.Json.Reader
import CodeAtlas.Proofs.Docstring.Quoting
import CodeAtlas.Proofs.Text.Splitting

/-!
# Different values have different texts

A string in quotes is read back as it was, whatever follows it (`readString_quoted`), and the digits
of an integer end where something else begins. So the compact text of a value without
floating-point numbers determines the value (`render_injective`).
-/

namespace CodeAtlas.Json

/-! ### Strings -/

theorem hexValue?_hexDigit : ∀ n < 32,
    Text.hexValue? ['0', '0', hexDigit (n / 16), hexDigit (n % 16)] = some n := by
  decide +kernel

theorem readUnicode?_hexDigit {c : Char} (h : c.toNat < 32) (s : Text) :
    readUnicode? ('0' :: '0' :: hexDigit (c.toNat / 16) :: hexDigit (c.toNat % 16) :: s) =
      some (c, 4) := by
  have hunit : readUnit? ('0' :: '0' :: hexDigit (c.toNat / 16) :: hexDigit (c.toNat % 16) :: s) =
      some c.toNat := hexValue?_hexDigit _ h
  have hlow : ¬ (0xD800 ≤ c.toNat ∧ c.toNat ≤ 0xDBFF) := by omega
  simp only [readUnicode?, hunit, Option.bind_eq_bind, Option.bind_some, if_neg hlow,
    Docstring.scalar?_toNat, Option.map_some]

/-- A character in a quoted string is read as it was. -/
theorem readString_escapeChar (acc : Text) (c : Char) (s : Text) :
    readString acc (escapeChar c ++ s) = readString (c :: acc) s := by
  have hsimple {d v : Char} (hc : c = v) (hd : d ≠ 'u') (hv : readSimple? d = some v) :
      readString acc ('\\' :: d :: s) = readString (c :: acc) s := by
    rw [hc, readString, if_neg (by decide), if_pos rfl]
    simp only [if_neg hd, hv]
  unfold escapeChar
  split_ifs with h₁ h₂ h₃ h₄ h₅ h₆ h₇ h₈
  · exact hsimple h₁ (by decide) rfl
  · exact hsimple h₂ (by decide) rfl
  · exact hsimple h₃ (by decide) rfl
  · exact hsimple h₄ (by decide) rfl
  · exact hsimple h₅ (by decide) rfl
  · exact hsimple h₆ (by decide) rfl
  · exact hsimple h₇ (by decide) rfl
  · simp only [List.cons_append, List.nil_append]
    rw [readString, if_neg (by decide), if_pos rfl]
    simp only [if_pos, readUnicode?_hexDigit h₈]
    rfl
  · rw [List.singleton_append, readString.eq_def]
    simp only [if_neg h₁, if_neg h₂, if_neg h₈]

theorem readString_quoted (acc t s : Text) :
    readString acc (t.flatMap escapeChar ++ '"' :: s) = some (acc.reverse ++ t, s) := by
  induction t generalizing acc with
  | nil =>
    rw [List.flatMap_nil, List.nil_append, readString.eq_def, List.append_nil]
    rfl
  | cons c t ih =>
    rw [List.flatMap_cons, List.append_assoc, readString_escapeChar, ih, List.reverse_cons,
      List.append_assoc]
    rfl

/-- Two quoted strings at the front of the same text are the same. -/
theorem quote_append_inj {a b s t : Text} (h : quote a ++ s = quote b ++ t) : a = b ∧ s = t := by
  have hcut (v r : Text) : quote v ++ r = '"' :: (v.flatMap escapeChar ++ '"' :: r) := by
    simp [quote]
  rw [hcut, hcut] at h
  have hread := congrArg (readString []) (List.cons.inj h).2
  rw [readString_quoted, readString_quoted] at hread
  exact Prod.mk.inj (Option.some.inj hread)

/-! ### Integers -/

/-- Whether the digits of a number would end before the text. -/
def EndsDigits (s : Text) : Prop := ∀ c ∈ s.head?, c.isDigit = false

theorem isDigit_of_mem_ofNat {n : Nat} {c : Char} (h : c ∈ Text.ofNat n) : c.isDigit = true :=
  Nat.isDigit_of_mem_toDigits (by decide) (by decide) h

theorem takeWhile_isDigit {n : Nat} {s : Text} (hs : EndsDigits s) :
    (Text.ofNat n ++ s).takeWhile Char.isDigit = Text.ofNat n :=
  Text.takeWhile_append_of_head? (fun _ hc => isDigit_of_mem_ofNat hc) hs

theorem ofNat_append_inj {m n : Nat} {s t : Text} (hs : EndsDigits s) (ht : EndsDigits t)
    (h : Text.ofNat m ++ s = Text.ofNat n ++ t) : m = n ∧ s = t := by
  have hd : Text.ofNat m = Text.ofNat n := by
    rw [← takeWhile_isDigit hs, h, takeWhile_isDigit ht]
  refine ⟨?_, List.append_cancel_left (hd ▸ h)⟩
  rw [← Nat.ofDigitChars_ten_toDigits (n := m), ← Nat.ofDigitChars_ten_toDigits (n := n)]
  exact congrArg (Nat.ofDigitChars 10 · 0) hd

theorem exists_ofNat_eq_cons (n : Nat) : ∃ c s, Text.ofNat n = c :: s ∧ c.isDigit = true := by
  obtain ⟨c, s, hs⟩ := List.exists_cons_of_ne_nil (Nat.toDigits_ne_nil (n := n) (b := 10))
  exact ⟨c, s, hs, isDigit_of_mem_ofNat (hs ▸ List.mem_cons_self ..)⟩

theorem ofNat_ne_minus {m : Nat} {s t : Text} : Text.ofNat m ++ s ≠ '-' :: t := by
  intro h
  obtain ⟨c, r, hr, hc⟩ := exists_ofNat_eq_cons m
  rw [hr] at h
  exact absurd ((List.cons.inj h).1 ▸ hc) (by decide)

theorem ofInt_append_inj {i j : Int} {s t : Text} (hs : EndsDigits s) (ht : EndsDigits t)
    (h : Text.ofInt i ++ s = Text.ofInt j ++ t) : i = j ∧ s = t := by
  cases i with
  | ofNat m =>
    cases j with
    | ofNat n => exact (ofNat_append_inj hs ht h).imp_left (congrArg Int.ofNat)
    | negSucc n => exact absurd h ofNat_ne_minus
  | negSucc m =>
    cases j with
    | ofNat n => exact absurd h.symm ofNat_ne_minus
    | negSucc n =>
      obtain ⟨hmn, hst⟩ := ofNat_append_inj hs ht (List.cons.inj h).2
      exact ⟨congrArg Int.negSucc (Nat.succ.inj hmn), hst⟩

/-! ### Values -/

mutual

/-- Whether a value has no floating-point number in it. -/
def isExact : Json → Bool
  | .num (.float _) => false
  | .arr es => allExact es
  | .obj ms => allMembersExact ms
  | _ => true

/-- Whether no element has a floating-point number in it. -/
def allExact : List Json → Bool
  | [] => true
  | e :: es => isExact e && allExact es

/-- Whether no member has a floating-point number in it. -/
def allMembersExact : List (Text × Json) → Bool
  | [] => true
  | (_, v) :: ms => isExact v && allMembersExact ms

end

/-- What kind of value a text begins with, told by its first character. -/
def kindOf (c : Char) : Nat :=
  if c = 'n' then 0
  else if c = 't' then 1
  else if c = 'f' then 2
  else if c = '-' ∨ c.isDigit then 3
  else if c = '"' then 4
  else if c = '[' then 5
  else if c = '\x7b' then 6
  else 7

/-- What kind of value a value is. -/
def kind : Json → Nat
  | .null => 0
  | .bool true => 1
  | .bool false => 2
  | .num _ => 3
  | .str _ => 4
  | .arr _ => 5
  | .obj _ => 6

theorem kindOf_of_isDigit {c : Char} (h : c.isDigit = true) : kindOf c = 3 := by
  have hne (d : Char) (hd : d.isDigit = false) : c ≠ d := by
    rintro rfl
    rw [h] at hd
    cases hd
  simp [kindOf, h, hne 'n' (by decide), hne 't' (by decide), hne 'f' (by decide)]

/-- The text of a value begins with a character of its kind. -/
theorem exists_render_eq_cons {v : Json} (h : isExact v = true) :
    ∃ c s, render v = c :: s ∧ kindOf c = kind v := by
  match v, h with
  | .null, _ => exact ⟨'n', _, rfl, by decide⟩
  | .bool true, _ => exact ⟨'t', _, rfl, by decide⟩
  | .bool false, _ => exact ⟨'f', _, rfl, by decide⟩
  | .num (.int (.ofNat n)), _ =>
    obtain ⟨c, s, hs, hc⟩ := exists_ofNat_eq_cons n
    exact ⟨c, s, by rw [render]; exact hs, kindOf_of_isDigit hc⟩
  | .num (.int (.negSucc n)), _ => exact ⟨'-', _, by rw [render]; rfl, rfl⟩
  | .str s, _ => exact ⟨'"', _, by rw [render]; rfl, rfl⟩
  | .arr es, _ => exact ⟨'[', _, by rw [render], rfl⟩
  | .obj ms, _ => exact ⟨'\x7b', _, by rw [render], rfl⟩

theorem kind_eq_of_render {v w : Json} {s t : Text} (hv : isExact v = true) (hw : isExact w = true)
    (h : render v ++ s = render w ++ t) : kind v = kind w := by
  obtain ⟨c, r, hr, hc⟩ := exists_render_eq_cons hv
  obtain ⟨d, q, hq, hd⟩ := exists_render_eq_cons hw
  rw [hr, hq] at h
  rw [← hc, ← hd, (List.cons.inj h).1]

/-- What stands behind an element of an array. -/
def elementsAfter : List Json → Text
  | [] => [']']
  | e :: es => ',' :: renderElements (e :: es)

/-- What stands behind a member of an object. -/
def membersAfter : List (Text × Json) → Text
  | [] => ['\x7d']
  | m :: ms => ',' :: renderMembers (m :: ms)

theorem renderElements_cons (e : Json) (es : List Json) :
    renderElements (e :: es) = render e ++ elementsAfter es := by
  cases es with
  | nil => rw [renderElements, elementsAfter]
  | cons f es => rw [renderElements.eq_3 _ _ (List.cons_ne_nil f es), elementsAfter]

theorem renderMembers_cons (k : Text) (v : Json) (ms : List (Text × Json)) :
    renderMembers ((k, v) :: ms) = quote k ++ ':' :: (render v ++ membersAfter ms) := by
  cases ms with
  | nil => rw [renderMembers, membersAfter]
  | cons m ms => rw [renderMembers.eq_3 _ _ _ (List.cons_ne_nil m ms), membersAfter]

theorem endsDigits_elementsAfter (es : List Json) (s : Text) :
    EndsDigits (elementsAfter es ++ s) := by
  cases es <;> rintro c ⟨⟩ <;> decide

theorem endsDigits_membersAfter (ms : List (Text × Json)) (s : Text) :
    EndsDigits (membersAfter ms ++ s) := by
  cases ms <;> rintro c ⟨⟩ <;> decide

theorem render_ne_close {v : Json} (h : isExact v = true) {c : Char} (hc : kindOf c = 7)
    (s t : Text) : c :: s ≠ render v ++ t := by
  obtain ⟨d, r, hr, hd⟩ := exists_render_eq_cons h
  intro he
  rw [hr] at he
  rw [← (List.cons.inj he).1, hc] at hd
  match v with
  | .null | .bool true | .bool false | .num _ | .str _ | .arr _ | .obj _ => simp [kind] at hd

mutual

/-- Two values at the front of the same text are the same, if what stands behind them adds no
digits. -/
theorem render_append_inj : ∀ (v w : Json) (s t : Text), isExact v = true → isExact w = true →
    EndsDigits s → EndsDigits t → render v ++ s = render w ++ t → v = w ∧ s = t
  | .null, w, s, t, hv, hw, _, _, h => by
    have hk := kind_eq_of_render hv hw h
    match w with
    | .null => exact ⟨rfl, List.append_cancel_left h⟩
    | .bool true | .bool false | .num _ | .str _ | .arr _ | .obj _ => simp [kind] at hk
  | .bool true, w, s, t, hv, hw, _, _, h => by
    have hk := kind_eq_of_render hv hw h
    match w with
    | .bool true => exact ⟨rfl, List.append_cancel_left h⟩
    | .null | .bool false | .num _ | .str _ | .arr _ | .obj _ => simp [kind] at hk
  | .bool false, w, s, t, hv, hw, _, _, h => by
    have hk := kind_eq_of_render hv hw h
    match w with
    | .bool false => exact ⟨rfl, List.append_cancel_left h⟩
    | .null | .bool true | .num _ | .str _ | .arr _ | .obj _ => simp [kind] at hk
  | .num (.int i), w, s, t, hv, hw, hs, ht, h => by
    have hk := kind_eq_of_render hv hw h
    match w with
    | .num (.int j) =>
      rw [render, render] at h
      exact (ofInt_append_inj hs ht h).imp_left fun hij => by rw [hij]
    | .null | .bool true | .bool false | .str _ | .arr _ | .obj _ => simp [kind] at hk
  | .str a, w, s, t, hv, hw, _, _, h => by
    have hk := kind_eq_of_render hv hw h
    match w with
    | .str b =>
      rw [render, render] at h
      exact (quote_append_inj h).imp_left (congrArg Json.str)
    | .null | .bool true | .bool false | .num _ | .arr _ | .obj _ => simp [kind] at hk
  | .arr es, w, s, t, hv, hw, _, _, h => by
    have hk := kind_eq_of_render hv hw h
    match w with
    | .arr fs =>
      rw [render, render] at h
      exact (renderElements_append_inj es fs s t hv hw (List.cons.inj h).2).imp_left
        (congrArg Json.arr)
    | .null | .bool true | .bool false | .num _ | .str _ | .obj _ => simp [kind] at hk
  | .obj ms, w, s, t, hv, hw, _, _, h => by
    have hk := kind_eq_of_render hv hw h
    match w with
    | .obj ns =>
      rw [render, render] at h
      exact (renderMembers_append_inj ms ns s t hv hw (List.cons.inj h).2).imp_left
        (congrArg Json.obj)
    | .null | .bool true | .bool false | .num _ | .str _ | .arr _ => simp [kind] at hk

theorem renderElements_append_inj : ∀ (es fs : List Json) (s t : Text), allExact es = true →
    allExact fs = true → renderElements es ++ s = renderElements fs ++ t → es = fs ∧ s = t
  | [], [], s, t, _, _, h => ⟨rfl, List.append_cancel_left h⟩
  | [], f :: fs, s, t, _, hf, h => by
    rw [allExact, Bool.and_eq_true] at hf
    rw [renderElements_cons, List.append_assoc] at h
    exact absurd h (render_ne_close hf.1 (by decide) _ _)
  | e :: es, [], s, t, he, _, h => by
    rw [allExact, Bool.and_eq_true] at he
    rw [renderElements_cons, List.append_assoc] at h
    exact absurd h.symm (render_ne_close he.1 (by decide) _ _)
  | e :: es, f :: fs, s, t, he, hf, h => by
    rw [allExact, Bool.and_eq_true] at he hf
    rw [renderElements_cons, renderElements_cons, List.append_assoc, List.append_assoc] at h
    obtain ⟨rfl, htail⟩ := render_append_inj e f _ _ he.1 hf.1 (endsDigits_elementsAfter es s)
      (endsDigits_elementsAfter fs t) h
    clear h
    match es, fs, htail with
    | [], [], htail => exact ⟨rfl, List.append_cancel_left htail⟩
    | [], _ :: _, htail | _ :: _, [], htail => simp [elementsAfter] at htail
    | e' :: es, f' :: fs, htail =>
      exact (renderElements_append_inj (e' :: es) (f' :: fs) s t he.2 hf.2
        (List.cons.inj htail).2).imp_left (congrArg (e :: ·))

theorem renderMembers_append_inj : ∀ (ms ns : List (Text × Json)) (s t : Text),
    allMembersExact ms = true → allMembersExact ns = true →
    renderMembers ms ++ s = renderMembers ns ++ t → ms = ns ∧ s = t
  | [], [], s, t, _, _, h => ⟨rfl, List.append_cancel_left h⟩
  | [], (k, v) :: ns, s, t, _, _, h => by
    rw [renderMembers_cons] at h
    simp [renderMembers, quote] at h
  | (k, v) :: ms, [], s, t, _, _, h => by
    rw [renderMembers_cons] at h
    simp [renderMembers, quote] at h
  | (k, v) :: ms, (l, w) :: ns, s, t, hm, hn, h => by
    rw [allMembersExact, Bool.and_eq_true] at hm hn
    rw [renderMembers_cons, renderMembers_cons, List.append_assoc, List.append_assoc] at h
    obtain ⟨rfl, hvalue⟩ := quote_append_inj h
    rw [List.cons_append, List.cons_append, List.append_assoc, List.append_assoc] at hvalue
    obtain ⟨rfl, htail⟩ := render_append_inj v w _ _ hm.1 hn.1 (endsDigits_membersAfter ms s)
      (endsDigits_membersAfter ns t) (List.cons.inj hvalue).2
    clear h hvalue
    match ms, ns, htail with
    | [], [], htail => exact ⟨rfl, List.append_cancel_left htail⟩
    | [], _ :: _, htail | _ :: _, [], htail => simp [membersAfter] at htail
    | m :: ms, n :: ns, htail =>
      exact (renderMembers_append_inj (m :: ms) (n :: ns) s t hm.2 hn.2
        (List.cons.inj htail).2).imp_left (congrArg ((k, v) :: ·))

end

/-- The compact text of a value without floating-point numbers determines the value. -/
theorem render_injective {v w : Json} (hv : isExact v = true) (hw : isExact w = true)
    (h : render v = render w) : v = w :=
  (render_append_inj v w [] [] hv hw nofun nofun (by rw [h])).1

end CodeAtlas.Json
