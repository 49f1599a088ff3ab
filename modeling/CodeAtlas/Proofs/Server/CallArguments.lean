import CodeAtlas.Proofs.Basic
import CodeAtlas.Proofs.Json.Members
import CodeAtlas.Server.Arguments
import Mathlib

/-!
# What arguments ask for

The arguments of a tool are decoded member by member. Where no key occurs twice the order of the
members does not matter: the arguments decode to a call exactly when the members under the tool's
own keys ask for it (`decode_eq_ok_iff`), whatever stands under other keys.
-/

namespace CodeAtlas

namespace TreeFormat

theorem ofName?_eq_some_iff {s : Text} {f : TreeFormat} : ofName? s = some f ↔ s = f.name := by
  constructor
  · intro h
    have hname := List.find?_some h
    exact (eq_of_beq hname).symm
  · rintro rfl
    cases f <;> rfl

end TreeFormat

namespace ToolCall

/-! ### Calls that members ask for -/

/-- Whether the members of an object ask for a depth. -/
inductive AsksForDepth (ms : List (Text × Json)) : Int → Prop where
  /-- Without a depth only the first level is asked for. -/
  | default (h : Json.find? "max_depth".toList ms = none) : AsksForDepth ms 1
  /-- The depth is an integer of 64 bits with a sign. What is read as an integer is never too small
  for that. -/
  | given {d : Int} (h : Json.find? "max_depth".toList ms = some (.num (.int d)))
    (hd : d < 2 ^ 63) : AsksForDepth ms d

/-- Whether the members of an object ask for a tree format. -/
inductive AsksForFormat (ms : List (Text × Json)) : TreeFormat → Prop where
  /-- Without a format the text is asked for. -/
  | default (h : Json.find? "output_format".toList ms = none) : AsksForFormat ms .text
  /-- The format stands there by its name. -/
  | named {f : TreeFormat} (h : Json.find? "output_format".toList ms = some (.str f.name)) :
    AsksForFormat ms f
  /-- The format stands there as an object with null under its name. -/
  | keyed {f : TreeFormat}
    (h : Json.find? "output_format".toList ms = some (.obj [(f.name, .null)])) : AsksForFormat ms f

/-- Whether the members of an object ask for paths. -/
def AsksForPaths (ms : List (Text × Json)) (paths : List Text) : Prop :=
  Json.find? "paths".toList ms = some (.arr (paths.map .str))

/-- Whether the members of an object, as the arguments of a tool, ask for a call. -/
inductive AsksFor (ms : List (Text × Json)) : Tool → ToolCall → Prop where
  /-- A tree has a root, and a depth and a format that may be left out. -/
  | dirTree {root : Text} {depth : Int} {format : TreeFormat}
    (hroot : Json.find? "root_path".toList ms = some (.str root)) (hdepth : AsksForDepth ms depth)
    (hformat : AsksForFormat ms format) : AsksFor ms .dirTree (.dirTree root depth format)
  /-- Outlines have paths. -/
  | pythonOutline {paths : List Text} (h : AsksForPaths ms paths) :
    AsksFor ms .pythonOutline (.pythonOutline paths)
  /-- Headings have paths. -/
  | markdownOutline {paths : List Text} (h : AsksForPaths ms paths) :
    AsksFor ms .markdownOutline (.markdownOutline paths)

/-! ### Values -/

variable {v : Json}

theorem decodeString_eq_ok_iff {s : Text} : decodeString v = .ok s ↔ v = .str s := by
  cases v <;> simp [decodeString]

theorem decodeInt_eq_ok_iff {d : Int} : decodeInt v = .ok d ↔ v = .num (.int d) ∧ d < 2 ^ 63 := by
  cases v with
  | num n =>
    cases n with
    | int i =>
      have hpow : ((Nat.pow 2 63 : Nat) : Int) = 2 ^ 63 := rfl
      rw [decodeInt, hpow]
      split
      · next hi =>
        constructor
        · intro h
          cases h
          exact ⟨rfl, hi⟩
        · rintro ⟨h, -⟩
          cases h
          rfl
      · next hi =>
        constructor
        · intro h
          cases h
        · rintro ⟨h, hd⟩
          cases h
          exact absurd hd hi
    | float x => simp [decodeInt]
  | null | bool b | str s | arr es | obj ms => simp [decodeInt]

theorem mapM_decodeString_eq_ok_iff {es : List Json} {ss : List Text} :
    es.mapM decodeString = .ok ss ↔ es = ss.map .str := by
  induction es generalizing ss with
  | nil => cases ss <;> simp [pure, Except.pure]
  | cons e es ih =>
    simp only [List.mapM_cons, bind_eq_ok_iff, decodeString_eq_ok_iff, ih, pure, Except.pure,
      Except.ok.injEq]
    constructor
    · rintro ⟨s, rfl, ss, rfl, rfl⟩
      rfl
    · intro h
      cases ss with
      | nil => cases h
      | cons s ss =>
        obtain ⟨he, hes⟩ := List.cons.inj h
        exact ⟨s, he, ss, hes, rfl⟩

theorem decodeStrings_eq_ok_iff {ss : List Text} :
    decodeStrings v = .ok ss ↔ v = .arr (ss.map .str) := by
  cases v with
  | arr es => rw [decodeStrings, mapM_decodeString_eq_ok_iff, Json.arr.injEq]
  | null | bool b | num n | str s | obj ms => simp [decodeStrings]

theorem decodeFormatName_eq_ok_iff {s : Text} {f : TreeFormat} :
    decodeFormatName s = .ok f ↔ s = f.name := by
  rw [← TreeFormat.ofName?_eq_some_iff, decodeFormatName]
  cases TreeFormat.ofName? s <;> simp

theorem decodeFormat_eq_ok_iff {f : TreeFormat} :
    decodeFormat v = .ok f ↔ v = .str f.name ∨ v = .obj [(f.name, .null)] := by
  cases v with
  | str s => simp [decodeFormat, decodeFormatName_eq_ok_iff]
  | obj ms =>
    rcases ms with _ | ⟨⟨s, w⟩, _ | ⟨m, ms⟩⟩
    · simp [decodeFormat]
    · cases w with
      | null => simp [decodeFormat, bind_eq_ok_iff, decodeFormatName_eq_ok_iff, pure, Except.pure]
      | bool b | num n | str s | arr es | obj ms => simp [decodeFormat, bind_eq_ok_iff]
    · simp [decodeFormat]
  | null | bool b | num n | arr es => simp [decodeFormat]

/-! ### Members -/

section Members

variable {α : Type} {decode : Json → Except ArgumentError α} {key : Text} {m : Text × Json}
  {ms : List (Text × Json)} {old new : Option α}

/-- Whether decoding what was found gives the new value. Where nothing was found the old one
stays. -/
def Takes (decode : Json → Except ArgumentError α) (found : Option Json) (old new : Option α) :
    Prop :=
  match found with
  | none => new = old
  | some v => ∃ a, decode v = .ok a ∧ new = some a

/-- The first member and then the others give what all of them give, if they do not have its key. -/
theorem takes_cons_iff (h : m.1 ∉ ms.map Prod.fst) :
    Takes decode (Json.find? key (m :: ms)) old new ↔
      ∃ between, Takes decode (Json.find? key [m]) old between ∧
        Takes decode (Json.find? key ms) between new := by
  by_cases hm : m.1 = key
  · have hnone : Json.find? key ms = none := Json.find?_eq_none_of_not_mem (hm ▸ h)
    simp [Json.find?, hm, hnone, Takes]
  · simp [Json.find?, hm, Takes]

theorem takes_of_key (v : Json) : Takes decode (Json.find? key [(key, v)]) old new ↔
    ∃ a, decode v = .ok a ∧ new = some a := by
  simp [Json.find?, Takes]

theorem takes_of_other_key (h : m.1 ≠ key) : Takes decode (Json.find? key [m]) old new ↔
    new = old := by
  simp [Json.find?, h, Takes]

theorem takes_some_iff {a : α} : Takes decode (Json.find? key ms) none (some a) ↔
    ∃ v, Json.find? key ms = some v ∧ decode v = .ok a := by
  cases Json.find? key ms <;> simp [Takes, eq_comm]

/-- What an argument with a default is in the end. -/
theorem takes_getD_iff {default a : α} :
    (∃ found, Takes decode (Json.find? key ms) none found ∧ found.getD default = a) ↔
      Json.find? key ms = none ∧ default = a ∨
        ∃ v, Json.find? key ms = some v ∧ decode v = .ok a := by
  cases Json.find? key ms with
  | none => simp [Takes]
  | some v =>
    constructor
    · rintro ⟨_, ⟨b, hb, rfl⟩, rfl⟩
      exact .inr ⟨v, rfl, hb⟩
    · rintro (⟨h, -⟩ | ⟨_, h, ha⟩)
      · cases h
      · cases h
        exact ⟨some a, ⟨a, ha, rfl⟩, rfl⟩

end Members

/-- A tree takes each of its arguments from the member with the argument's own key. -/
theorem member_eq_ok_iff {a b : TreeArguments} {m : Text × Json} :
    a.member m = .ok b ↔
      Takes decodeString (Json.find? "root_path".toList [m]) a.root b.root ∧
        Takes decodeInt (Json.find? "max_depth".toList [m]) a.depth b.depth ∧
        Takes decodeFormat (Json.find? "output_format".toList [m]) a.format b.format := by
  obtain ⟨root, depth, format⟩ := a
  obtain ⟨root', depth', format'⟩ := b
  obtain ⟨key, v⟩ := m
  have hrd : "root_path".toList ≠ "max_depth".toList := by decide
  have hrf : "root_path".toList ≠ "output_format".toList := by decide
  have hdf : "max_depth".toList ≠ "output_format".toList := by decide
  rw [TreeArguments.member]
  generalize "root_path".toList = r at *
  generalize "max_depth".toList = d at *
  generalize "output_format".toList = f at *
  split_ifs with hr hd hf
  · cases hr
    rw [takes_of_key, takes_of_other_key hrd, takes_of_other_key hrf, map_eq_ok_iff]
    grind
  · cases hd
    rw [takes_of_key, takes_of_other_key hrd.symm, takes_of_other_key hdf, map_eq_ok_iff]
    grind
  · cases hf
    rw [takes_of_key, takes_of_other_key hrf.symm, takes_of_other_key hdf.symm, map_eq_ok_iff]
    grind
  · rw [takes_of_other_key hr, takes_of_other_key hd, takes_of_other_key hf]
    grind

/-- So do the members of a tree's arguments one after the other. -/
theorem foldlM_member_eq_ok_iff {a b : TreeArguments} {ms : List (Text × Json)}
    (h : (ms.map Prod.fst).Nodup) :
    ms.foldlM TreeArguments.member a = .ok b ↔
      Takes decodeString (Json.find? "root_path".toList ms) a.root b.root ∧
        Takes decodeInt (Json.find? "max_depth".toList ms) a.depth b.depth ∧
        Takes decodeFormat (Json.find? "output_format".toList ms) a.format b.format := by
  induction ms generalizing a with
  | nil =>
    obtain ⟨root, depth, format⟩ := a
    obtain ⟨root', depth', format'⟩ := b
    simp [Json.find?, Takes, pure, Except.pure, eq_comm]
  | cons m ms ih =>
    obtain ⟨hm, hms⟩ := List.nodup_cons.mp h
    simp only [List.foldlM_cons, bind_eq_ok_iff, member_eq_ok_iff, ih hms, takes_cons_iff hm]
    constructor
    · rintro ⟨c, ⟨hr, hd, hf⟩, hr', hd', hf'⟩
      exact ⟨⟨c.root, hr, hr'⟩, ⟨c.depth, hd, hd'⟩, c.format, hf, hf'⟩
    · rintro ⟨⟨root, hr, hr'⟩, ⟨depth, hd, hd'⟩, format, hf, hf'⟩
      exact ⟨⟨root, depth, format⟩, ⟨hr, hd, hf⟩, hr', hd', hf'⟩

theorem foldlM_pathsMember_eq_ok_iff {a b : Option (List Text)} {ms : List (Text × Json)}
    (h : (ms.map Prod.fst).Nodup) :
    ms.foldlM pathsMember a = .ok b ↔
      Takes decodeStrings (Json.find? "paths".toList ms) a b := by
  have hmember (a b : Option (List Text)) (m : Text × Json) :
      pathsMember a m = .ok b ↔ Takes decodeStrings (Json.find? "paths".toList [m]) a b := by
    obtain ⟨key, v⟩ := m
    rw [pathsMember]
    generalize "paths".toList = p
    split_ifs with hp
    · cases hp
      rw [takes_of_key, map_eq_ok_iff]
      simp only [eq_comm]
    · rw [takes_of_other_key hp]
      simp [eq_comm]
  induction ms generalizing a with
  | nil => simp [Json.find?, Takes, pure, Except.pure, eq_comm]
  | cons m ms ih =>
    obtain ⟨hm, hms⟩ := List.nodup_cons.mp h
    simp only [List.foldlM_cons, bind_eq_ok_iff, hmember, ih hms, takes_cons_iff hm]

/-! ### Calls -/

theorem require_eq_ok_iff {α : Type} {name : String} {found : Option α} {a : α} :
    require name found = .ok a ↔ found = some a := by
  cases found <;> simp [require]

variable {ms : List (Text × Json)}

theorem decodePaths_eq_ok_iff {paths : List Text} (h : (ms.map Prod.fst).Nodup) :
    decodePaths ms = .ok paths ↔ AsksForPaths ms paths := by
  simp only [decodePaths, bind_eq_ok_iff, require_eq_ok_iff, foldlM_pathsMember_eq_ok_iff h]
  constructor
  · rintro ⟨_, hfound, rfl⟩
    obtain ⟨v, hv, hpaths⟩ := takes_some_iff.mp hfound
    cases decodeStrings_eq_ok_iff.mp hpaths
    exact hv
  · intro hv
    exact ⟨_, takes_some_iff.mpr ⟨_, hv, decodeStrings_eq_ok_iff.mpr rfl⟩, rfl⟩

theorem asksForDepth_iff {depth : Int} : AsksForDepth ms depth ↔
    ∃ found, Takes decodeInt (Json.find? "max_depth".toList ms) none found ∧
      found.getD Disk.defaultDepth = depth := by
  rw [takes_getD_iff]
  constructor
  · rintro (h | ⟨h, hd⟩)
    · exact .inl ⟨h, rfl⟩
    · exact .inr ⟨_, h, decodeInt_eq_ok_iff.mpr ⟨rfl, hd⟩⟩
  · rintro (⟨h, rfl⟩ | ⟨v, h, hd⟩)
    · exact .default h
    · obtain ⟨rfl, hsmall⟩ := decodeInt_eq_ok_iff.mp hd
      exact .given h hsmall

theorem asksForFormat_iff {format : TreeFormat} : AsksForFormat ms format ↔
    ∃ found, Takes decodeFormat (Json.find? "output_format".toList ms) none found ∧
      found.getD .text = format := by
  rw [takes_getD_iff]
  constructor
  · rintro (h | h | h)
    · exact .inl ⟨h, rfl⟩
    · exact .inr ⟨_, h, decodeFormat_eq_ok_iff.mpr (.inl rfl)⟩
    · exact .inr ⟨_, h, decodeFormat_eq_ok_iff.mpr (.inr rfl)⟩
  · rintro (⟨h, rfl⟩ | ⟨v, h, hf⟩)
    · exact .default h
    · rcases decodeFormat_eq_ok_iff.mp hf with rfl | rfl
      · exact .named h
      · exact .keyed h

/-- Arguments whose keys are distinct decode to the call that they ask for. -/
theorem decode_eq_ok_iff {tool : Tool} {call : ToolCall} (h : (ms.map Prod.fst).Nodup) :
    decode tool ms = .ok call ↔ AsksFor ms tool call := by
  cases tool with
  | dirTree =>
    simp only [decode, bind_eq_ok_iff, foldlM_member_eq_ok_iff h, require_eq_ok_iff, pure,
      Except.pure, Except.ok.injEq]
    constructor
    · rintro ⟨⟨_, depth, format⟩, ⟨hroot, hdepth, hformat⟩, root, rfl, rfl⟩
      obtain ⟨v, hv, hr⟩ := takes_some_iff.mp hroot
      cases decodeString_eq_ok_iff.mp hr
      exact .dirTree hv (asksForDepth_iff.mpr ⟨depth, hdepth, rfl⟩)
        (asksForFormat_iff.mpr ⟨format, hformat, rfl⟩)
    · rintro ⟨hroot, hdepth, hformat⟩
      obtain ⟨depth, hd, rfl⟩ := asksForDepth_iff.mp hdepth
      obtain ⟨format, hf, rfl⟩ := asksForFormat_iff.mp hformat
      have hr := takes_some_iff.mpr ⟨_, hroot, decodeString_eq_ok_iff.mpr rfl⟩
      exact ⟨⟨some _, depth, format⟩, ⟨hr, hd, hf⟩, _, rfl, rfl⟩
  | pythonOutline | markdownOutline =>
    simp only [decode, map_eq_ok_iff, decodePaths_eq_ok_iff h]
    constructor
    · rintro ⟨paths, hpaths, rfl⟩
      constructor
      exact hpaths
    · intro hcall
      cases hcall
      exact ⟨_, ‹AsksForPaths ms _›, rfl⟩

end ToolCall

end CodeAtlas
