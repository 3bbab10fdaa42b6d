import ConfigResolver.CommandLine.Command
import ConfigResolver.Proofs.Options.RootList
import ConfigResolver.Proofs.Steps

/-!
# Switches over variables

A switch takes the place of the variable that sets the same option. What an environment sets is told
here field by field (`Options.ofEnvironment_eq`), and so is what the switches leave of it
(`Common.apply_eq`). Options that agree wherever no switch is given become the same ones
(`Common.apply_congr`), so an environment counts only for the variables that are not overridden.

There is one exception: the root paths of the environment are read before the switches are looked
at, so a list that is refused is refused under any switches. Options that are not refused are in
normal form (`Common.normal_of_options`), so there is a resolver for them.

Main statement: `Common.options_overridden`.
-/

namespace ConfigResolver

namespace Options

/-! ## What an environment sets -/

/-- The root paths that a variable lists, if it is set. -/
def rootsOf : Option String → Except Error (List String)
  | none => .ok []
  | some text => parseRootPaths text

/-- The region that a variable names, if it is set. A blank one names none. -/
def regionOf : Option String → String
  | none => standard.region
  | some value => if (Text.trim value.toList).isEmpty then standard.region else trimmed value

theorem ofEnvironment_eq (env : Environment) :
    ofEnvironment env = (rootsOf (env.text? rootPathVariable)).map fun roots ↦ { standard with
      rootPaths := roots
      skipRemote := (env.text? skipVariable).any parseFlag
      region := regionOf (env.text? regionVariable) } := by
  unfold ofEnvironment
  cases env.text? regionVariable <;> cases env.text? rootPathVariable with
  | none => rfl
  | some text => simp only [rootsOf]; cases parseRootPaths text <;> rfl

theorem isRoot_of_rootsOf {text : Option String} {roots : List String}
    (h : rootsOf text = .ok roots) : ∀ root ∈ roots, IsRoot root := by
  cases text with
  | none =>
    cases h
    nofun
  | some text => exact fun root hroot ↦ (isRoot_of_parseRootPaths h root hroot).1

theorem normal_of_ofEnvironment {env : Environment} {o : Options}
    (h : ofEnvironment env = .ok o) : o.Normal := by
  rw [ofEnvironment_eq] at h
  obtain ⟨roots, hroots, rfl⟩ := map_eq_ok_iff.1 h
  exact ⟨isRoot_of_rootsOf hroots, nofun⟩

/-- The environment lists root paths, and the first relative one of them is `bad`. -/
def RefusedFor (env : Environment) (bad : String) : Prop :=
  ∃ text, env.text? rootPathVariable = some text ∧ FirstRelative (segments text) bad

theorem ofEnvironment_of_refused {env : Environment} {bad : String} (h : RefusedFor env bad) :
    ofEnvironment env = .error (.invalidRootPath bad) := by
  obtain ⟨text, htext, hbad⟩ := h
  rw [ofEnvironment_eq, htext, rootsOf, parseRootPaths_eq, normalRoots_of_firstRelative hbad]
  rfl

theorem exists_roots_or_refused (env : Environment) :
    (∃ roots, rootsOf (env.text? rootPathVariable) = .ok roots) ∨ ∃ bad, RefusedFor env bad := by
  cases htext : env.text? rootPathVariable with
  | none => exact .inl ⟨[], rfl⟩
  | some text =>
    rcases absolute_or_firstRelative (segments text) with habsolute | ⟨bad, hbad⟩
    · exact .inl ⟨_, (parseRootPaths_eq text).trans (normalRoots_of_absolute habsolute)⟩
    · exact .inr ⟨bad, text, htext, hbad⟩

end Options

namespace CommandLine.Common

open Options

variable {c : Common} {env env' : Environment}

/-! ## What the switches set -/

/-- No switch is given. -/
def nothing : Common := ⟨[], none, false, none, none, none⟩

/-- The root paths that the switches list, if there are any. -/
def rootsOver (c : Common) (o : Options) : Except Error (List String) :=
  if c.rootPaths = [] then .ok o.rootPaths else parseRootPaths (":".intercalate c.rootPaths)

theorem apply_eq (c : Common) (o : Options) :
    c.apply o = (c.rootsOver o).map fun roots ↦ {
      rootPaths := roots
      defaultValue := c.defaultValue.elim o.defaultValue fun value ↦
        if value.isEmpty then none else some value
      skipRemote := c.skipRemote || o.skipRemote
      region := c.region.getD o.region
      endpoint := c.endpoint.or o.endpoint
      profile := c.profile.or o.profile
      maxSubstitutions := o.maxSubstitutions } := by
  obtain ⟨roots, value, skip, region, endpoint, profile⟩ := c
  unfold apply rootsOver
  cases roots with
  | nil => cases value <;> cases skip <;> cases region <;> cases endpoint <;> cases profile <;> rfl
  | cons root roots =>
    simp only [withRootPathList_eq, withRootPaths_eq]
    cases parseRootPaths (":".intercalate (root :: roots)) with
    | error e => rfl
    | ok all =>
      cases value <;> cases skip <;> cases region <;> cases endpoint <;> cases profile <;> rfl

theorem normal_of_apply {o o' : Options} (ho : o.Normal) (h : c.apply o = .ok o') :
    o'.Normal := by
  rw [apply_eq] at h
  obtain ⟨roots, hroots, rfl⟩ := map_eq_ok_iff.1 h
  constructor
  case roots =>
    unfold rootsOver at hroots
    split at hroots
    · cases hroots
      exact ho.roots
    · exact fun root hroot ↦ (isRoot_of_parseRootPaths hroots root hroot).1
  case default =>
    cases hvalue : c.defaultValue with
    | none => exact ho.default
    | some value =>
      rw [Option.elim_some]
      split
      · nofun
      · next hempty => simpa using hempty

theorem normal_of_options {o : Options} (h : c.options env = .ok o) : o.Normal := by
  obtain ⟨o', henv, happly⟩ := bind_eq_ok_iff.1 h
  exact normal_of_apply (normal_of_ofEnvironment henv) happly

@[simp] theorem apply_nothing (o : Options) : nothing.apply o = .ok o := rfl

/-- Options that agree wherever no switch is given become the same ones. -/
theorem apply_congr {o o' : Options} (hroots : c.rootPaths = [] → o.rootPaths = o'.rootPaths)
    (hskip : c.skipRemote = false → o.skipRemote = o'.skipRemote)
    (hregion : c.region = none → o.region = o'.region)
    (hrest : o' = { o with
      rootPaths := o'.rootPaths, skipRemote := o'.skipRemote, region := o'.region }) :
    c.apply o = c.apply o' := by
  have hover : c.rootsOver o = c.rootsOver o' := by
    unfold rootsOver
    split
    · next h => rw [hroots h]
    · rfl
  have hskips : (c.skipRemote || o.skipRemote) = (c.skipRemote || o'.skipRemote) := by
    cases h : c.skipRemote with
    | true => rfl
    | false => rw [hskip h]
  have hregions : c.region.getD o.region = c.region.getD o'.region := by
    cases h : c.region with
    | some name => rfl
    | none => exact hregion h
  rw [apply_eq, apply_eq, hover, hskips, hregions, hrest]

/-! ## Switches and environment -/

/-- A switch sets what the variable of the name sets otherwise. -/
def Overrides (c : Common) (name : String) : Prop :=
  name = rootPathVariable ∧ c.rootPaths ≠ [] ∨ name = skipVariable ∧ c.skipRemote = true ∨
    name = regionVariable ∧ c.region ≠ none

@[simp] theorem overrides_rootPath_iff : c.Overrides rootPathVariable ↔ c.rootPaths ≠ [] := by
  simp [Overrides, rootPathVariable, skipVariable, regionVariable]

@[simp] theorem overrides_skip_iff : c.Overrides skipVariable ↔ c.skipRemote = true := by
  simp [Overrides, rootPathVariable, skipVariable, regionVariable]

@[simp] theorem overrides_region_iff : c.Overrides regionVariable ↔ c.region ≠ none := by
  simp [Overrides, rootPathVariable, skipVariable, regionVariable]

/-- The environments differ in overridden variables only. -/
def AgreeElsewhere (c : Common) (env env' : Environment) : Prop :=
  ∀ name, ¬ c.Overrides name → env.bytes? name = env'.bytes? name

theorem AgreeElsewhere.text? (h : c.AgreeElsewhere env env') {name : String}
    (hname : ¬ c.Overrides name) : env.text? name = env'.text? name := by
  rw [Environment.text?, Environment.text?, h name hname]

theorem options_of_refused {bad : String} (h : RefusedFor env bad) (c : Common) :
    c.options env = .error (.invalidRootPath bad) := by
  rw [options, ofEnvironment_of_refused h]
  rfl

/-- Where the root paths of both environments can be read, what is overridden does not count. -/
theorem options_congr (h : c.AgreeElsewhere env env') {roots roots' : List String}
    (hroots : rootsOf (env.text? rootPathVariable) = .ok roots)
    (hroots' : rootsOf (env'.text? rootPathVariable) = .ok roots') :
    c.options env = c.options env' := by
  unfold options
  rw [ofEnvironment_eq, ofEnvironment_eq, hroots, hroots']
  apply apply_congr
  · intro hnone
    have hname : ¬ c.Overrides rootPathVariable := by simp [hnone]
    rw [h.text? hname, hroots'] at hroots
    exact (Except.ok.inj hroots).symm
  · intro hnone
    have hname : ¬ c.Overrides skipVariable := by simp [hnone]
    simp only [h.text? hname]
  · intro hnone
    have hname : ¬ c.Overrides regionVariable := by simp [hnone]
    simp only [h.text? hname]
  · rfl

/-- Environments that differ in overridden variables only come to the same options, or to the same
error, unless the root paths of one of them are refused although there are switches in their place.
Root paths of the environment that are refused are refused under all switches, and the error names
the first that is relative. Without a switch the options are those of the environment. -/
theorem options_overridden (h : c.AgreeElsewhere env env') :
    (c.options env = c.options env' ∨
      c.rootPaths ≠ [] ∧ ∃ bad, RefusedFor env bad ∨ RefusedFor env' bad) ∧
    (∀ bad, RefusedFor env bad → c.options env = .error (.invalidRootPath bad)) ∧
    (∀ bad, RefusedFor env' bad → c.options env' = .error (.invalidRootPath bad)) ∧
    nothing.options env = ofEnvironment env := by
  refine ⟨?_, fun bad hbad ↦ options_of_refused hbad c, fun bad hbad ↦ options_of_refused hbad c,
    ?_⟩
  · by_cases hnone : c.rootPaths = []
    · have hname : ¬ c.Overrides rootPathVariable := by simp [hnone]
      have htext := h.text? hname
      left
      rcases exists_roots_or_refused env with ⟨roots, hroots⟩ | ⟨bad, hbad⟩
      · exact options_congr h hroots (htext ▸ hroots)
      · have hbad' : RefusedFor env' bad := by
          unfold RefusedFor at hbad ⊢
          rwa [← htext]
        rw [options_of_refused hbad, options_of_refused hbad']
    · rcases exists_roots_or_refused env with ⟨roots, hroots⟩ | ⟨bad, hbad⟩
      · rcases exists_roots_or_refused env' with ⟨roots', hroots'⟩ | ⟨bad, hbad⟩
        · exact .inl (options_congr h hroots hroots')
        · exact .inr ⟨hnone, bad, .inr hbad⟩
      · exact .inr ⟨hnone, bad, .inl hbad⟩
  · unfold options
    cases ofEnvironment env <;> rfl

/-- Three switches stand in the place of three variables, one of which is not text. -/
theorem options_overridden_three :
    let c : Common := ⟨["/b:/c"], none, true, some "eu-west-1", none, none⟩
    let env := ((Environment.empty.set "SSM_ROOT_PATH" [0xff]).set "SSM_SKIP_RESOLUTION" [0x4e]).set
      "AWS_REGION" [0x78]
    c.AgreeElsewhere env .empty ∧ c.options env = c.options .empty ∧
      c.options env =
        .ok { rootPaths := ["/b/", "/c/"], skipRemote := true, region := "eu-west-1" } := by
  intro c env
  have hagree : c.AgreeElsewhere env .empty := by
    intro name hname
    have hroot : name ≠ "SSM_ROOT_PATH" := by
      rintro rfl
      exact hname (overrides_rootPath_iff.2 (by simp [c]))
    have hskip : name ≠ "SSM_SKIP_RESOLUTION" := by
      rintro rfl
      exact hname (overrides_skip_iff.2 rfl)
    have hregion : name ≠ "AWS_REGION" := by
      rintro rfl
      exact hname (overrides_region_iff.2 (by simp [c]))
    simp only [env]
    rw [Environment.bytes?_set _ (by decide), if_neg hregion,
      Environment.bytes?_set _ (by decide), if_neg hskip,
      Environment.bytes?_set _ (by decide), if_neg hroot]
  obtain ⟨heq | ⟨-, bad, hbad | hbad⟩, -⟩ := options_overridden hagree
  · exact ⟨hagree, heq, by rw [heq]; rfl⟩
  · have hunset : env.text? rootPathVariable = none := by decide +kernel
    obtain ⟨text, htext, -⟩ := hbad
    cases htext.symm.trans hunset
  · obtain ⟨text, htext, -⟩ := hbad
    cases htext

/-- A relative root path in the environment is an error, although a switch stands in its place. -/
theorem options_of_refused_under_switch :
    let c : Common := ⟨["/a"], none, false, none, none, none⟩
    let env := Environment.empty.set "SSM_ROOT_PATH" [0x62]
    c.AgreeElsewhere env .empty ∧ c.options env = .error (.invalidRootPath "b") ∧
      c.options .empty = .ok { rootPaths := ["/a/"] } := by
  intro c env
  have htext : env.text? rootPathVariable = some "b" := by decide +kernel
  have hbad : RefusedFor env "b" := ⟨"b", htext, [], [], rfl, nofun, by decide⟩
  refine ⟨?_, options_of_refused hbad c, rfl⟩
  intro name hname
  have hne : name ≠ "SSM_ROOT_PATH" := by
    rintro rfl
    exact hname (overrides_rootPath_iff.2 (by simp [c]))
  simp only [env]
  rw [Environment.bytes?_set _ (by decide), if_neg hne]

end CommandLine.Common

end ConfigResolver
