import CodeAtlas.Cli.Settings
import CodeAtlas.Proofs.Basic
import Mathlib

/-!
# Settings do not depend on the order of the flags

A command line that is made of flags, each with its value joined to it or as the next argument, is
read flag by flag (`Reading.finish_commandLine`). What is given in the end is the same for every
order of the flags, and so are the settings, which take from the environment only what no flag gives
(`Settings.resolve_commandLine`).
-/

namespace CodeAtlas

/-! ### Command lines made of flags -/

/-- A flag on a command line, with its value if it takes one. -/
inductive FlagUse where
  /-- The value follows an equals sign. -/
  | joined (flag : Flag) (value : Text)
  /-- The value is the next argument. -/
  | apart (flag : Flag) (value : Text)
  /-- The names of the tools are asked for. -/
  | listTools
  deriving DecidableEq

namespace FlagUse

/-- The arguments that a flag takes up. -/
def arguments : FlagUse → List Text
  | .joined f value => ["--".toList ++ f.name ++ '=' :: value]
  | .apart f value => ["--".toList ++ f.name, value]
  | .listTools => ["--list-tools".toList]

/-- The command line that some flags make. -/
def commandLine (us : List FlagUse) : List Text := us.flatMap arguments

/-- The flag and the value that are given, if the flag takes one. -/
def given? : FlagUse → Option (Flag × Text)
  | .joined f value | .apart f value => some (f, value)
  | .listTools => none

/-- Which flag it is; nothing stands for the one that takes no value. -/
def flag? (u : FlagUse) : Option Flag := u.given?.map Prod.fst

/-- Whether the value can be read as one: as an argument of its own it must not look like a flag. -/
def IsReadable : FlagUse → Prop
  | .apart _ value => Argument.ofText value = .plain
  | .joined _ _ | .listTools => True

/-- Whether the flag accepts its value. -/
def IsAccepted (u : FlagUse) : Prop := ∀ p, u.given? = some p → p.1.accepts p.2 = true

end FlagUse

open FlagUse

/-! ### Reading flag by flag -/

namespace Flag

theorem mem_all (f : Flag) : f ∈ all := by
  cases f <;> decide

theorem ofName?_name (f : Flag) : ofName? f.name = some f := by
  cases f <;> rfl

end Flag

theorem Argument.ofText_name (f : Flag) :
    Argument.ofText ("--".toList ++ f.name) = .long f.name none := by
  cases f <;> rfl

theorem Argument.ofText_joined (f : Flag) (value : Text) :
    Argument.ofText ("--".toList ++ f.name ++ '=' :: value) = .long f.name (some value) := by
  cases f <;> rfl

namespace Reading

variable {r : Reading} {us : List FlagUse} {f : Flag} {value : Text} {g g' : Given}

/-- What is given when the last of some more arguments has been read. -/
def finish (r : Reading) (args : List Text) : Except Stop Given := do
  (← args.foldlM step r).settle

theorem finish_cons_eq_ok_iff {arg : Text} {args : List Text} :
    r.finish (arg :: args) = .ok g ↔ ∃ r', r.step arg = .ok r' ∧ r'.finish args = .ok g := by
  simp only [finish, List.foldlM_cons, bind_eq_ok_iff]
  constructor
  · rintro ⟨r₂, ⟨r₁, h₁, h₂⟩, h⟩
    exact ⟨r₁, h₁, r₂, h₂, h⟩
  · rintro ⟨r₁, h₁, r₂, h₂, h⟩
    exact ⟨r₂, ⟨r₁, h₁, h₂⟩, h⟩

/-- A flag settles the one before it and, with its value joined to it, is taken in at once. -/
theorem step_joined_eq_ok_iff (h : r.separated = false) {r' : Reading} :
    r.step ("--".toList ++ f.name ++ '=' :: value) = .ok r' ↔
      ∃ g g', r.settle = .ok g ∧ g.add f value = .ok g' ∧ r' = ⟨g', none, false⟩ := by
  rw [step, h, Argument.ofText_joined, if_neg Bool.false_ne_true]
  simp only [Flag.ofName?_name, bind_eq_ok_iff, pure, Except.pure, Except.ok.injEq]
  constructor
  · rintro ⟨g, hg, g', hg', rfl⟩
    exact ⟨g, g', hg, hg', rfl⟩
  · rintro ⟨g, g', hg, hg', rfl⟩
    exact ⟨g, hg, g', hg', rfl⟩

theorem step_listTools_eq_ok_iff (h : r.separated = false) {r' : Reading} :
    r.step "--list-tools".toList = .ok r' ↔
      ∃ g g', r.settle = .ok g ∧ g.addListTools = .ok g' ∧ r' = ⟨g', none, false⟩ := by
  have hform : Argument.ofText "--list-tools".toList = .long "list-tools".toList none := rfl
  have hname : Flag.ofName? "list-tools".toList = none := rfl
  rw [step, h, hform, if_neg Bool.false_ne_true]
  simp only [hname, if_true, bare, Option.isSome_none, Bool.false_eq_true, if_false,
    bind_eq_ok_iff, pure, Except.pure, Except.ok.injEq]
  constructor
  · rintro ⟨g, hg, g', hg', rfl⟩
    exact ⟨g, g', hg, hg', rfl⟩
  · rintro ⟨g, g', hg, hg', rfl⟩
    exact ⟨g, hg, g', hg', rfl⟩

/-- A flag without a joined value waits for one. -/
theorem step_name_eq_ok_iff (h : r.separated = false) {r' : Reading} :
    r.step ("--".toList ++ f.name) = .ok r' ↔
      ∃ g, r.settle = .ok g ∧ r' = ⟨g, some (f, none), false⟩ := by
  rw [step, h, Argument.ofText_name, if_neg Bool.false_ne_true]
  simp only [Flag.ofName?_name, bind_eq_ok_iff, pure, Except.pure, Except.ok.injEq]
  constructor
  · rintro ⟨g, hg, rfl⟩
    exact ⟨g, hg, rfl⟩
  · rintro ⟨g, hg, rfl⟩
    exact ⟨g, hg, rfl⟩

/-- After the separator nothing more can be read. -/
theorem finish_of_separated (h : r.separated = true) {args : List Text}
    (hr : r.finish args = .ok g) : r.settle = .ok g := by
  cases args with
  | nil => exact hr
  | cons arg args =>
    obtain ⟨r', hstep, -⟩ := finish_cons_eq_ok_iff.mp hr
    rw [step, h, if_pos rfl] at hstep
    cases hstep

/-- What waits for its value takes the next argument, unless that looks like a flag. -/
theorem finish_waiting_eq_ok_iff {args : List Text} :
    finish ⟨g, some (f, none), false⟩ (value :: args) = .ok g' ↔
      Argument.ofText value = .plain ∧ finish ⟨g, some (f, some value), false⟩ args = .ok g' := by
  have hsettle : settle ⟨g, some (f, none), false⟩ = .error .invalidValue := rfl
  rw [finish_cons_eq_ok_iff]
  constructor
  · rintro ⟨r', hstep, hr⟩
    rw [step, if_neg Bool.false_ne_true] at hstep
    cases harg : Argument.ofText value with
    | plain =>
      simp only [harg] at hstep
      cases hstep
      exact ⟨rfl, hr⟩
    | separator =>
      simp only [harg] at hstep
      cases hstep
      cases finish_of_separated rfl hr
    | short c =>
      simp only [harg, finishWith, hsettle] at hstep
      split_ifs at hstep
    | long name value =>
      simp only [harg, finishWith, hsettle, bare] at hstep
      cases hname : Flag.ofName? name with
      | some f' => cases value <;> simp only [hname] at hstep <;> cases hstep
      | none =>
        simp only [hname] at hstep
        split_ifs at hstep
        all_goals cases hstep
  · rintro ⟨harg, hr⟩
    refine ⟨_, ?_, hr⟩
    rw [step, if_neg Bool.false_ne_true, harg]

end Reading

/-! ### Taking in one flag after another -/

/-- What is given with one more flag, whatever it is. -/
def Given.use (g : Given) : FlagUse → Except Stop Given
  | .joined f value | .apart f value => g.add f value
  | .listTools => g.addListTools

namespace Reading

variable {r : Reading} {us : List FlagUse} {u : FlagUse} {f : Flag} {value : Text} {g : Given}

/-- A flag of one argument is taken in before anything more is read. -/
theorem finish_taken {arg : Text} {args : List Text}
    (h : ∀ r', r.step arg = .ok r' ↔
      ∃ g₀ g₁, r.settle = .ok g₀ ∧ g₀.use u = .ok g₁ ∧ r' = ⟨g₁, none, false⟩) :
    r.finish (arg :: args) = .ok g ↔
      ∃ g₀, r.settle = .ok g₀ ∧ ∃ g₁, g₀.use u = .ok g₁ ∧
        finish ⟨g₁, none, false⟩ args = .ok g := by
  rw [finish_cons_eq_ok_iff]
  constructor
  · rintro ⟨r', hr', hr⟩
    obtain ⟨g₀, g₁, hg₀, hg₁, rfl⟩ := (h r').mp hr'
    exact ⟨g₀, hg₀, g₁, hg₁, hr⟩
  · rintro ⟨g₀, hg₀, g₁, hg₁, hr⟩
    exact ⟨_, (h _).mpr ⟨g₀, g₁, hg₀, hg₁, rfl⟩, hr⟩

/-- A flag with its value apart is taken in with what comes after it. -/
theorem finish_apart (h : r.separated = false) {args : List Text} :
    r.finish ((FlagUse.apart f value).arguments ++ args) = .ok g ↔
      (FlagUse.apart f value).IsReadable ∧ ∃ g₀, r.settle = .ok g₀ ∧
        finish ⟨g₀, some (f, some value), false⟩ args = .ok g := by
  rw [arguments, List.cons_append, List.singleton_append, finish_cons_eq_ok_iff]
  simp only [step_name_eq_ok_iff h]
  constructor
  · rintro ⟨_, ⟨g₀, hg₀, rfl⟩, hr⟩
    obtain ⟨hreadable, hr⟩ := finish_waiting_eq_ok_iff.mp hr
    exact ⟨hreadable, g₀, hg₀, hr⟩
  · rintro ⟨hreadable, g₀, hg₀, hr⟩
    exact ⟨_, ⟨g₀, hg₀, rfl⟩, finish_waiting_eq_ok_iff.mpr ⟨hreadable, hr⟩⟩

/-- A command line of flags is read by taking in one flag after another. -/
theorem finish_commandLine (h : r.separated = false) :
    r.finish (commandLine us) = .ok g ↔
      (∀ u ∈ us, u.IsReadable) ∧ ∃ g₀, r.settle = .ok g₀ ∧ us.foldlM Given.use g₀ = .ok g := by
  induction us generalizing r with
  | nil =>
    constructor
    · intro hr
      exact ⟨by simp, g, hr, rfl⟩
    · rintro ⟨-, g₀, hr, hg⟩
      cases hg
      exact hr
  | cons u us ih =>
    have hcons : commandLine (u :: us) = u.arguments ++ commandLine us := List.flatMap_cons ..
    have hdone (g₁ : Given) : finish ⟨g₁, none, false⟩ (commandLine us) = .ok g ↔
        (∀ u ∈ us, u.IsReadable) ∧ us.foldlM Given.use g₁ = .ok g := by
      rw [ih (r := ⟨g₁, none, false⟩) rfl]
      simp [settle]
    rw [hcons, List.forall_mem_cons]
    simp only [List.foldlM_cons, bind_eq_ok_iff]
    cases u with
    | joined f value =>
      rw [arguments, List.singleton_append,
        finish_taken (u := .joined f value) fun _ => step_joined_eq_ok_iff h]
      simp only [hdone, IsReadable]
      grind
    | apart f value =>
      have hwaiting (g₀ : Given) : finish ⟨g₀, some (f, some value), false⟩ (commandLine us) =
          .ok g ↔ (∀ u ∈ us, u.IsReadable) ∧
            ∃ g₁, g₀.use (.apart f value) = .ok g₁ ∧ us.foldlM Given.use g₁ = .ok g :=
        ih (r := ⟨g₀, some (f, some value), false⟩) rfl
      rw [finish_apart h]
      simp only [hwaiting]
      grind
    | listTools =>
      rw [arguments, List.singleton_append,
        finish_taken (u := .listTools) fun _ => step_listTools_eq_ok_iff h]
      simp only [hdone, IsReadable]
      grind

end Reading

/-! ### What is given in the end -/

/-- Whether some flags give a flag a value. -/
def FlagUse.Gives (us : List FlagUse) (f : Flag) (value : Text) : Prop :=
  ∃ u ∈ us, u.given? = some (f, value)

namespace Given

variable {us vs : List FlagUse} {u : FlagUse} {g : Given} {f : Flag} {value : Text}

/-- What some flags give. -/
def ofUses (us : List FlagUse) : Given :=
  ⟨us.filterMap given?, decide (FlagUse.listTools ∈ us)⟩

theorem mem_values_ofUses : (f, value) ∈ (ofUses us).values ↔ Gives us f value :=
  List.mem_filterMap

theorem some_mem_flags_iff : some f ∈ us.map flag? ↔ ∃ value, Gives us f value := by
  simp only [List.mem_map, flag?, Option.map_eq_some_iff, Gives]
  constructor
  · rintro ⟨u, hu, ⟨_, value⟩, hgiven, rfl⟩
    exact ⟨value, u, hu, hgiven⟩
  · rintro ⟨value, u, hu, hgiven⟩
    exact ⟨u, hu, (f, value), hgiven, rfl⟩

theorem none_mem_flags_iff : Option.none ∈ us.map flag? ↔ FlagUse.listTools ∈ us := by
  rw [List.mem_map]
  constructor
  · rintro ⟨u, hu, hflag⟩
    cases u with
    | listTools => exact hu
    | joined f value | apart f value => cases hflag
  · intro hu
    exact ⟨_, hu, rfl⟩

theorem isSome_lookup_iff : ((ofUses us).values.lookup f).isSome = true ↔
    some f ∈ us.map flag? := by
  rw [List.lookup_isSome_iff, some_mem_flags_iff]
  constructor
  · rintro ⟨⟨f', value⟩, hmem, hf⟩
    cases eq_of_beq hf
    exact ⟨value, mem_values_ofUses.mp hmem⟩
  · rintro ⟨value, h⟩
    exact ⟨(f, value), mem_values_ofUses.mpr h, beq_self_eq_true f⟩

/-- One more flag is taken in if it is new and accepts its value. -/
theorem use_ofUses_eq_ok_iff : (ofUses us).use u = .ok g ↔
    u.flag? ∉ us.map flag? ∧ u.IsAccepted ∧ g = ofUses (us ++ [u]) := by
  have hadd (f : Flag) (value : Text) (hu : u.given? = some (f, value)) :
      (ofUses us).add f value = .ok g ↔
        u.flag? ∉ us.map flag? ∧ u.IsAccepted ∧ g = ofUses (us ++ [u]) := by
    have hflag : u.flag? = some f := congrArg (Option.map Prod.fst) hu
    have haccepted : u.IsAccepted ↔ f.accepts value = true := by
      simp [IsAccepted, hu]
    have hlast : ofUses (us ++ [u]) =
        { ofUses us with values := (ofUses us).values ++ [(f, value)] } := by
      have hne : FlagUse.listTools ≠ u := by
        rintro rfl
        cases hu
      simp [ofUses, List.filterMap_append, hu, hne]
    rw [add, hflag, haccepted, hlast]
    split
    · next hsome => simp [isSome_lookup_iff.mp hsome]
    · next hsome =>
      have hnew := mt isSome_lookup_iff.mpr hsome
      split
      · next hacc => simp [hnew, hacc, eq_comm]
      · next hacc => simp [hacc]
  cases u with
  | joined f value | apart f value => exact hadd f value rfl
  | listTools =>
    have hflag : FlagUse.listTools.flag? = Option.none := rfl
    have haccepted : FlagUse.listTools.IsAccepted := by simp [IsAccepted, given?]
    rw [use, addListTools, hflag, none_mem_flags_iff]
    by_cases hmem : FlagUse.listTools ∈ us
    · simp [ofUses, hmem]
    · have hvalues : [FlagUse.listTools].filterMap given? = [] := rfl
      simp [ofUses, hmem, haccepted, hvalues, eq_comm]

/-- Flags are taken in one after another if no two are the same and all accept their values. -/
theorem foldlM_use_eq_ok_iff : us.foldlM use .none = .ok g ↔
    (us.map flag?).Nodup ∧ (∀ u ∈ us, u.IsAccepted) ∧ g = ofUses us := by
  induction us using List.reverseRecOn generalizing g with
  | nil =>
    constructor
    · intro h
      cases h
      exact ⟨List.nodup_nil, by simp, rfl⟩
    · rintro ⟨-, -, rfl⟩
      rfl
  | append_singleton us u ih =>
    have hnodup : ((us ++ [u]).map flag?).Nodup ↔
        (us.map flag?).Nodup ∧ u.flag? ∉ us.map flag? := by
      rw [List.map_append, List.map_singleton, List.nodup_append_comm, List.singleton_append,
        List.nodup_cons, and_comm]
    rw [List.foldlM_append, bind_eq_ok_iff, hnodup, List.forall_mem_append,
      List.forall_mem_singleton]
    simp only [List.foldlM_cons, List.foldlM_nil, bind_pure]
    constructor
    · rintro ⟨g₀, hg₀, hg⟩
      obtain ⟨hdistinct, hall, rfl⟩ := ih.mp hg₀
      obtain ⟨hnew, hu, rfl⟩ := use_ofUses_eq_ok_iff.mp hg
      exact ⟨⟨hdistinct, hnew⟩, ⟨hall, hu⟩, rfl⟩
    · rintro ⟨⟨hdistinct, hnew⟩, ⟨hall, hu⟩, rfl⟩
      exact ⟨ofUses us, ih.mpr ⟨hdistinct, hall, rfl⟩,
        use_ofUses_eq_ok_iff.mpr ⟨hnew, hu, rfl⟩⟩

/-- What a command line of flags gives. -/
theorem ofArguments_commandLine : ofArguments (commandLine us) = .ok g ↔
    (∀ u ∈ us, u.IsReadable) ∧ (us.map flag?).Nodup ∧ (∀ u ∈ us, u.IsAccepted) ∧
      g = ofUses us := by
  have hfinish : ofArguments (commandLine us) = Reading.start.finish (commandLine us) := rfl
  have hsettle : Reading.start.settle = .ok .none := rfl
  rw [hfinish, Reading.finish_commandLine rfl, hsettle, ← foldlM_use_eq_ok_iff]
  simp

/-! ### Where a value comes from -/

variable {env env' : Environment}

theorem nodup_values (h : (us.map flag?).Nodup) : ((ofUses us).values.map Prod.fst).Nodup := by
  have hkeys : (ofUses us).values.map Prod.fst = (us.map flag?).filterMap id := by
    rw [ofUses, List.map_filterMap, List.filterMap_map]
    rfl
  rw [hkeys]
  refine h.filterMap fun a b f ha hb => ?_
  rw [Option.mem_def, id] at ha hb
  rw [ha, hb]

theorem value?_of_gives (h : (us.map flag?).Nodup) (hg : Gives us f value) :
    (ofUses us).value? env f = some value := by
  have hlookup : (ofUses us).values.lookup f = some value :=
    (lookup_eq_some_iff_mem (nodup_values h)).mpr (mem_values_ofUses.mpr hg)
  rw [value?, hlookup, Option.some_or]

theorem value?_of_not_gives (hg : ∀ value, ¬ Gives us f value) :
    (ofUses us).value? env f = env.lookup f.variableName := by
  have hlookup : (ofUses us).values.lookup f = Option.none := by
    rw [← Option.not_isSome_iff_eq_none, isSome_lookup_iff, some_mem_flags_iff]
    rintro ⟨value, h⟩
    exact hg value h
  rw [value?, hlookup, Option.none_or]

/-- The order of the flags does not matter, nor do the variables of those that are given. -/
theorem value?_eq (h : (us.map flag?).Nodup) (hp : us.Perm vs)
    (henv : ∀ f, (∀ value, ¬ Gives us f value) →
      env'.lookup f.variableName = env.lookup f.variableName) (f : Flag) :
    (ofUses vs).value? env' f = (ofUses us).value? env f := by
  have hgives (value : Text) : Gives vs f value ↔ Gives us f value :=
    exists_congr fun u => and_congr_left' hp.mem_iff.symm
  by_cases hg : ∃ value, Gives us f value
  · obtain ⟨value, hg⟩ := hg
    have hvs : (vs.map flag?).Nodup := (hp.map flag?).nodup_iff.mp h
    rw [value?_of_gives h hg, value?_of_gives hvs ((hgives value).mpr hg)]
  · rw [not_exists] at hg
    rw [value?_of_not_gives hg, ← henv f hg,
      value?_of_not_gives fun value => mt (hgives value).mp (hg value)]

theorem settings_eq {g' : Given} (hv : ∀ f, g'.value? env' f = g.value? env f)
    (hl : g'.listTools = g.listTools) : g'.settings env' = g.settings env := by
  simp only [settings, turnsOn, hv, hl]

end Given

/-! ### Settings -/

/-- The flag that turns a tool on or off. -/
def Tool.flag : Tool → Flag
  | .dirTree => .dirTree
  | .pythonOutline => .pythonOutline
  | .markdownOutline => .markdownOutline

namespace Settings

variable {us vs : List FlagUse} {env env' : Environment} {f : Flag} {value : Text} {g : Given}
  {s : Settings}

/-- Whether a setting is what a text says. -/
def Shows (s : Settings) : Flag → Text → Prop
  | .dirTree, value => Flag.bool? value = some s.tools.dirTree
  | .pythonOutline, value => Flag.bool? value = some s.tools.pythonOutline
  | .markdownOutline, value => Flag.bool? value = some s.tools.markdownOutline
  | .logLevel, value => s.log.level = value
  | .logFormat, value => LogFormat.ofName? value = some s.log.format
  | .logFile, value => s.log.file = some value
  | .logFileLevel, value => s.log.fileLevel = value

/-- Whether a setting is what it is when nothing says otherwise. -/
def IsDefault (s : Settings) : Flag → Prop
  | .dirTree => s.tools.dirTree = true
  | .pythonOutline => s.tools.pythonOutline = true
  | .markdownOutline => s.tools.markdownOutline = true
  | .logLevel => s.log.level = "info".toList
  | .logFormat => s.log.format = .text
  | .logFile => s.log.file = none
  | .logFileLevel => s.log.fileLevel = "debug".toList

theorem resolve_eq_ok_iff {args : List Text} : resolve env args = .ok s ↔
    ∃ g, Given.ofArguments args = .ok g ∧
      (∀ f value, g.value? env f = some value → f.accepts value = true) ∧
      g.settings env = s := by
  have hall (g : Given) : (Flag.all.all fun f => (g.value? env f).all f.accepts) = true ↔
      ∀ f value, g.value? env f = some value → f.accepts value = true := by
    simp only [List.all_eq_true, Option.all_eq_true]
    exact ⟨fun h f => h f (Flag.mem_all f), fun h f _ => h f⟩
  rw [resolve, bind_eq_ok_iff]
  refine exists_congr fun g => and_congr_right fun _ => ?_
  split
  · next h =>
    rw [hall] at h
    constructor
    · intro hs
      exact ⟨h, Except.ok.inj hs⟩
    · rintro ⟨-, rfl⟩
      rfl
  · next h =>
    rw [hall] at h
    constructor
    · intro hs
      cases hs
    · rintro ⟨ha, -⟩
      exact absurd ha h

theorem turnsOn_eq (h : g.value? env f = some value) (ha : (Flag.bool? value).isSome = true) :
    Flag.bool? value = some (g.turnsOn env f) := by
  obtain ⟨b, hb⟩ := Option.isSome_iff_exists.mp ha
  rw [Given.turnsOn, h, Option.bind_some, hb, Option.getD_some]

/-- A value that is accepted becomes the setting. -/
theorem shows_settings (h : g.value? env f = some value) (ha : f.accepts value = true) :
    (g.settings env).Shows f value := by
  cases f with
  | dirTree | pythonOutline | markdownOutline => exact turnsOn_eq h ha
  | logFormat =>
    obtain ⟨format, hformat⟩ := Option.isSome_iff_exists.mp ha
    simp [Shows, Given.settings, h, hformat]
  | logLevel | logFile | logFileLevel => simp [Shows, Given.settings, h]

theorem isDefault_settings (h : g.value? env f = none) : (g.settings env).IsDefault f := by
  cases f <;> simp [IsDefault, Given.settings, Given.turnsOn, h]

theorem mem_enabled_iff (t : Tool) : t ∈ s.tools.enabled ↔ s.Shows t.flag "true".toList := by
  have htrue (b : Bool) : b = true ↔ Flag.bool? "true".toList = some b := by
    rw [Flag.bool?, if_pos rfl, Option.some.injEq, eq_comm]
  rw [ToolSet.mem_enabled_iff]
  cases t <;> exact htrue _

/-- A command line of flags that can be read gives the same settings in every order, and whatever
the variables of the given flags hold. Each setting is what its flag says, or else what its variable
says, or else its default, and the tools turned on come in the order of their declaration. -/
theorem resolve_commandLine (h : Settings.resolve env (commandLine us) = .ok s) :
    (∀ vs env', us.Perm vs →
        (∀ f, (∀ value, ¬ Gives us f value) →
          env'.lookup f.variableName = env.lookup f.variableName) →
        Settings.resolve env' (commandLine vs) = .ok s) ∧
      (∀ f value, Gives us f value → s.Shows f value) ∧
      (∀ f, (∀ value, ¬ Gives us f value) →
        (∀ value, env.lookup f.variableName = some value → s.Shows f value) ∧
          (env.lookup f.variableName = none → s.IsDefault f)) ∧
      (s.listTools = true ↔ FlagUse.listTools ∈ us) ∧
      s.tools.enabled.Sublist Tool.all ∧
      ∀ t : Tool, t ∈ s.tools.enabled ↔ s.Shows t.flag "true".toList := by
  obtain ⟨g, hg, hvalues, rfl⟩ := resolve_eq_ok_iff.mp h
  obtain ⟨hreadable, hdistinct, haccepted, rfl⟩ := Given.ofArguments_commandLine.mp hg
  refine ⟨fun vs env' hp henv => ?_, fun f value hgives => ?_, fun f hnot => ⟨?_, ?_⟩, ?_,
    List.filter_sublist, fun t => mem_enabled_iff t⟩
  · have hv := Given.value?_eq hdistinct hp henv
    have hl : (Given.ofUses vs).listTools = (Given.ofUses us).listTools := by
      simp only [Given.ofUses, hp.mem_iff]
    have hread : Given.ofArguments (commandLine vs) = .ok (.ofUses vs) :=
      Given.ofArguments_commandLine.mpr ⟨fun u hu => hreadable u (hp.mem_iff.mpr hu),
        (hp.map flag?).nodup_iff.mp hdistinct, fun u hu => haccepted u (hp.mem_iff.mpr hu), rfl⟩
    refine resolve_eq_ok_iff.mpr ⟨_, hread, fun f value hf => ?_, Given.settings_eq hv hl⟩
    exact hvalues f value ((hv f).symm.trans hf)
  · have hf : (Given.ofUses us).value? env f = some value := Given.value?_of_gives hdistinct hgives
    exact shows_settings hf (hvalues f value hf)
  · intro value hlookup
    have hf := (Given.value?_of_not_gives hnot).trans hlookup
    exact shows_settings hf (hvalues f value hf)
  · intro hlookup
    exact isDefault_settings ((Given.value?_of_not_gives hnot).trans hlookup)
  · exact decide_eq_true_iff

/-- A variable without a valid value does not matter where its flag is given. -/
theorem resolve_commandLine_invalid_variable :
    let level := (Flag.logLevel.variableName, "warn".toList)
    let env := [(Flag.dirTree.variableName, "sometimes".toList), level]
    let us : List FlagUse :=
      [.joined .dirTree "false".toList, .listTools, .apart .logFormat "json".toList]
    let s : Settings := ⟨⟨false, true, true⟩, ⟨"warn".toList, .json, none, "debug".toList⟩, true⟩
    Settings.resolve env (commandLine us) = .ok s ∧
      Settings.resolve [level] (commandLine us.reverse) = .ok s ∧
      s.Shows .dirTree "false".toList ∧ s.Shows .logLevel "warn".toList ∧
      s.IsDefault .pythonOutline ∧ Tool.dirTree ∉ s.tools.enabled := by
  intro level env us s
  have h : Settings.resolve env (commandLine us) = .ok s := by decide +kernel
  obtain ⟨horder, hgiven, hother, -, -, htools⟩ := resolve_commandLine h
  have hnot {f : Flag} (hd : f ≠ .dirTree) (hl : f ≠ .logFormat) (value : Text) :
      ¬ Gives us f value := by
    rintro ⟨u, hu, hf⟩
    simp only [us, List.mem_cons, List.not_mem_nil, or_false] at hu
    rcases hu with rfl | rfl | rfl <;> cases hf <;> contradiction
  refine ⟨h, horder _ _ (List.reverse_perm us).symm fun f hf => ?_,
    hgiven _ _ ⟨_, List.mem_cons_self .., rfl⟩,
    (hother _ (hnot (by decide) (by decide))).1 _ (by decide +kernel),
    (hother _ (hnot (by decide) (by decide))).2 (by decide +kernel), ?_⟩
  · cases f with
    | dirTree => exact absurd ⟨_, List.mem_cons_self .., rfl⟩ (hf "false".toList)
    | pythonOutline | markdownOutline | logLevel | logFormat | logFile | logFileLevel =>
      decide +kernel
  · have hfalse : Flag.bool? "true".toList ≠ some false := by decide
    rw [htools]
    exact hfalse

end Settings

end CodeAtlas
