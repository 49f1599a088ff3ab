import CodeAtlas.Json.Reader
import CodeAtlas.Proofs.Json.Members
import Mathlib.Tactic.SplitIfs

/-!
# What is read has no key twice

A member whose key has come before in its object replaces the value of the earlier one. So while the
tokens of a text are put together the members of every object, open or closed, have distinct keys
(`step_hasUniqueKeys`), and the value in the end has no key twice (`parse?_hasUniqueKeys`).
-/

namespace CodeAtlas.Json

/-- Whether no object in a value has two members with the same key. -/
inductive HasUniqueKeys : Json → Prop where
  /-- Null has no members. -/
  | null : HasUniqueKeys .null
  /-- A boolean has no members. -/
  | bool (b : Bool) : HasUniqueKeys (.bool b)
  /-- A number has no members. -/
  | num (n : JsonNumber) : HasUniqueKeys (.num n)
  /-- A string has no members. -/
  | str (s : Text) : HasUniqueKeys (.str s)
  /-- The elements of an array are looked at one by one. -/
  | arr {es : List Json} (h : ∀ e ∈ es, HasUniqueKeys e) : HasUniqueKeys (.arr es)
  /-- The keys of an object are distinct, and so are those in the values under them. -/
  | obj {ms : List (Text × Json)} (hkeys : (ms.map Prod.fst).Nodup)
    (h : ∀ m ∈ ms, HasUniqueKeys m.2) : HasUniqueKeys (.obj ms)

namespace HasUniqueKeys

theorem nodup {ms : List (Text × Json)} (h : HasUniqueKeys (.obj ms)) :
    (ms.map Prod.fst).Nodup := by
  cases h with
  | obj hkeys _ => exact hkeys

theorem field? {v w : Json} {key : String} (hv : v.HasUniqueKeys) (h : v.field? key = some w) :
    w.HasUniqueKeys := by
  cases hv with
  | null | bool b | num n | str s | arr hes => cases h
  | obj hkeys hms => exact hms _ (mem_of_find?_eq_some h)

theorem insert {ms : List (Text × Json)} {key : Text} {v : Json} (hms : HasUniqueKeys (.obj ms))
    (hv : v.HasUniqueKeys) : HasUniqueKeys (.obj (Json.insert key v ms)) := by
  cases hms with
  | obj hkeys hms =>
    refine .obj (nodup_keys_insert hkeys) fun m hm => ?_
    rcases mem_insert hm with rfl | hm
    · exact hv
    · exact hms m hm

end HasUniqueKeys

/-! ### Tokens -/

/-- Whether the value of a token has no key twice. -/
def Token.HasUniqueKeys : Token → Prop
  | .scalar v => v.HasUniqueKeys
  | _ => True

theorem readMark?_hasUniqueKeys {c : Char} {t : Token} (h : readMark? c = some t) :
    t.HasUniqueKeys := by
  unfold readMark? at h
  split_ifs at h
  all_goals
    cases h
    exact trivial

theorem readWord?_hasUniqueKeys {s : Text} {v : Json} {k : Nat} (h : readWord? s = some (v, k)) :
    v.HasUniqueKeys := by
  unfold readWord? at h
  split_ifs at h
  · cases h
    exact .null
  all_goals
    cases h
    exact .bool _

theorem tokens_hasUniqueKeys {acc ts : List Token} {s : Text}
    (hacc : ∀ t ∈ acc, t.HasUniqueKeys) (h : tokens acc s = some ts) :
    ∀ t ∈ ts, t.HasUniqueKeys := by
  fun_induction tokens acc s with
  | case1 acc =>
    cases h
    exact fun t ht => hacc t (List.mem_reverse.mp ht)
  | case2 acc c s hblank ih => exact ih hacc h
  | case3 acc c s hblank t ht ih =>
    exact ih (List.forall_mem_cons.mpr ⟨readMark?_hasUniqueKeys ht, hacc⟩) h
  | case4 | case6 | case8 => cases h
  | case5 acc s v r hread hlen hblank hmark ih =>
    exact ih (List.forall_mem_cons.mpr ⟨.str v, hacc⟩) h
  | case7 acc c s hblank hmark hquote hnumber n k hread ih =>
    exact ih (List.forall_mem_cons.mpr ⟨.num n, hacc⟩) h
  | case9 acc c s hblank hmark hquote hnumber v k hread ih =>
    exact ih (List.forall_mem_cons.mpr ⟨readWord?_hasUniqueKeys hread, hacc⟩) h

/-! ### Values -/

/-- Whether an open container has no key twice so far. -/
def Open.HasUniqueKeys : Open → Prop
  | .array done => Json.HasUniqueKeys (.arr done)
  | .object done _ => Json.HasUniqueKeys (.obj done)

/-- Whether what has been read of the innermost container has no key twice. -/
def Expect.HasUniqueKeys : Expect → Prop
  | .value | .firstElement => True
  | .firstKey done | .key done | .colon done _ => Json.HasUniqueKeys (.obj done)
  | .after v => v.HasUniqueKeys

theorem hasUniqueKeys_arr_iff {es : List Json} :
    HasUniqueKeys (.arr es) ↔ ∀ e ∈ es, e.HasUniqueKeys := by
  constructor
  · intro h
    cases h with
    | arr h => exact h
  · exact .arr

variable {stack stack' : List Open} {e e' : Expect} {t : Token}

/-- One more token brings no key twice, neither into the open containers nor into the value that
it ends. -/
theorem step_hasUniqueKeys (hstack : ∀ o ∈ stack, o.HasUniqueKeys) (he : e.HasUniqueKeys)
    (ht : t.HasUniqueKeys) (h : e.step stack t = some (stack', e')) :
    (∀ o ∈ stack', o.HasUniqueKeys) ∧ e'.HasUniqueKeys := by
  have hempty : (Json.arr []).HasUniqueKeys := .arr (List.forall_mem_nil _)
  have hnone : (Json.obj []).HasUniqueKeys := .obj List.nodup_nil (List.forall_mem_nil _)
  fun_cases Expect.step stack e t with
  | case1 v | case4 v =>
    cases h
    exact ⟨hstack, ht⟩
  | case2 | case5 =>
    cases h
    exact ⟨List.forall_mem_cons.mpr ⟨hempty, hstack⟩, trivial⟩
  | case3 | case6 =>
    cases h
    exact ⟨hstack, hnone⟩
  | case7 =>
    cases h
    exact ⟨fun o ho => hstack o (List.mem_of_mem_drop ho), hempty⟩
  | case8 done k | case10 done k =>
    cases h
    exact ⟨hstack, he⟩
  | case9 done =>
    cases h
    exact ⟨hstack, hnone⟩
  | case11 done k =>
    cases h
    exact ⟨List.forall_mem_cons.mpr ⟨he, hstack⟩, trivial⟩
  | case12 v done rest =>
    cases h
    obtain ⟨hdone, hrest⟩ := List.forall_mem_cons.mp hstack
    have hmore : ∀ e ∈ v :: done, e.HasUniqueKeys :=
      List.forall_mem_cons.mpr ⟨he, hasUniqueKeys_arr_iff.mp hdone⟩
    exact ⟨List.forall_mem_cons.mpr ⟨.arr hmore, hrest⟩, trivial⟩
  | case13 v done k rest =>
    cases h
    obtain ⟨hdone, hrest⟩ := List.forall_mem_cons.mp hstack
    exact ⟨hrest, HasUniqueKeys.insert hdone he⟩
  | case15 v done rest =>
    cases h
    obtain ⟨hdone, hrest⟩ := List.forall_mem_cons.mp hstack
    have hmore : ∀ e ∈ v :: done, e.HasUniqueKeys :=
      List.forall_mem_cons.mpr ⟨he, hasUniqueKeys_arr_iff.mp hdone⟩
    exact ⟨hrest, .arr fun e he => hmore e (List.mem_reverse.mp he)⟩
  | case17 v done k rest =>
    cases h
    obtain ⟨hdone, hrest⟩ := List.forall_mem_cons.mp hstack
    exact ⟨hrest, HasUniqueKeys.insert hdone he⟩
  | case14 => cases h
  | case16 | case18 | case19 => grind [Expect.step]

theorem ofTokens_hasUniqueKeys {ts : List Token} {v : Json}
    (hstack : ∀ o ∈ stack, o.HasUniqueKeys) (he : e.HasUniqueKeys)
    (hts : ∀ t ∈ ts, t.HasUniqueKeys) (h : ofTokens stack e ts = some v) : v.HasUniqueKeys := by
  induction ts generalizing stack e with
  | nil =>
    unfold ofTokens at h
    split at h
    · cases h
      exact he
    · cases h
  | cons t ts ih =>
    obtain ⟨ht, hts⟩ := List.forall_mem_cons.mp hts
    rw [ofTokens] at h
    split at h
    · cases h
    · next stack' e' hstep =>
      obtain ⟨hstack', he'⟩ := step_hasUniqueKeys hstack he ht hstep
      exact ih hstack' he' hts h

/-- A value that is read has no key twice. -/
theorem parse?_hasUniqueKeys {s : Text} {v : Json} (h : parse? s = some v) : v.HasUniqueKeys := by
  obtain ⟨ts, hts, hv⟩ := Option.bind_eq_some_iff.mp h
  exact ofTokens_hasUniqueKeys (e := .value) (List.forall_mem_nil _) trivial
    (tokens_hasUniqueKeys (List.forall_mem_nil _) hts) hv

end CodeAtlas.Json
