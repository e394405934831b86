import HttpReplay.Config.Validation
import HttpReplay.Plugin.Assembly
import Mathlib

/-!
What a configuration without faults asks for can be built.

Faults are looked for in one pass over the entries, and plugins are built in another. Both ask what
an entry's text names; beyond that they have little in common. The first pass goes on after a fault,
looks at addresses as they are written and knows nothing of channels and pools, while the second
stops at the first entry that it cannot build and reads addresses without the white space around
them. What either says of an entry is told here by relations that mention neither pass: which plugin
an entry names (`PluginEntry.Names`), why it cannot be built (`Faulty`), and what is built from it
(`Builds`).

So a configuration without faults may still ask for what cannot be built, and it does in one way if
its channels can be made: by an idle floor that a program which checks its products cannot reckon
with (`ofConfig_uncounted`).

The second pass is a fold that adds to the plugins one by one. It comes to what building each entry
by itself comes to (`foldlM_eq_ok_iff`, `failure?_foldlM`), so its error is that of the first
entry that has one.
-/

set_option autoImplicit false

namespace HttpReplay

/-! ## What entries name -/

/-- Whether an entry names a plugin of a role, in any letter case and with white space around. -/
def PluginEntry.Names (entry : PluginEntry) (role : Role) (kind : PluginKind) : Prop :=
  kind.role = role ∧ Text.sameLetters kind.name (Text.trim entry.kind) = true

instance (entry : PluginEntry) (role : Role) (kind : PluginKind) :
    Decidable (entry.Names role kind) := inferInstanceAs (Decidable (_ ∧ _))

namespace PluginKind

/-- No two plugins have the same name, whatever the letter case. -/
theorem eq_of_lower_name {k l : PluginKind} (h : Text.lower k.name = Text.lower l.name) :
    k = l := by
  cases k <;> cases l <;> first | rfl | exact absurd h (by decide +kernel)

variable {entry : PluginEntry} {role : Role} {kind : PluginKind}

theorem names_iff : entry.Names role kind ↔
    (kind.role == role && Text.sameLetters kind.name (Text.trim entry.kind)) = true := by
  rw [PluginEntry.Names, Bool.and_eq_true, beq_iff_eq]

/-- A role has at most one plugin that an entry names. -/
theorem eq_of_names {k l : PluginKind} (hk : entry.Names role k) (hl : entry.Names role l) :
    k = l := by
  have hsame {k : PluginKind} (h : entry.Names role k) :
      Text.lower k.name = Text.lower (Text.trim entry.kind) := by
    have hletters := h.2
    rwa [Text.sameLetters, beq_iff_eq] at hletters
  exact eq_of_lower_name ((hsame hk).trans (hsame hl).symm)

theorem find?_eq_some_iff : find? role entry.kind = some kind ↔ entry.Names role kind := by
  have hnames {k : PluginKind} (h : find? role entry.kind = some k) : entry.Names role k := by
    rw [find?] at h
    have hfound := List.find?_some h
    exact names_iff.2 hfound
  refine ⟨hnames, fun h => ?_⟩
  cases hfind : find? role entry.kind with
  | some other => rw [eq_of_names h (hnames hfind)]
  | none =>
    rw [find?, List.find?_eq_none] at hfind
    have hmem : kind ∈ all := by cases kind <;> decide
    exact absurd (names_iff.1 h) (hfind kind hmem)

theorem find?_eq_none_iff : find? role entry.kind = none ↔ ∀ kind, ¬ entry.Names role kind := by
  rw [Option.eq_none_iff_forall_ne_some]
  exact forall_congr' fun kind => not_congr find?_eq_some_iff

end PluginKind

namespace Plugins

variable {c : Config} {arithmetic : Arithmetic} {entry : PluginEntry} {why : BuildError}
  {p q : Plugins}

/-! ## Single entries -/

/-- Why an entry of a role cannot be built. -/
inductive Faulty (c : Config) (arithmetic : Arithmetic) : Role × PluginEntry → BuildError → Prop
  /-- It names no plugin of the role. -/
  | kind {role : Role} {entry : PluginEntry} : (∀ kind, ¬ entry.Names role kind) →
      Faulty c arithmetic (role, entry) (.unknownKind role entry.kind)
  /-- It is to replay, and its address names no server. -/
  | target {entry : PluginEntry} {why : TargetError} : entry.Names .output .http →
      Target.parse (Text.trim entry.address) = .error why →
      Faulty c arithmetic (.output, entry) (.target why)
  /-- It is to replay to a server, and the pool cannot be opened. -/
  | pool {entry : PluginEntry} {target : Target} : entry.Names .output .http →
      Target.parse (Text.trim entry.address) = .ok target → c.replay.opens arithmetic = false →
      Faulty c arithmetic (.output, entry) .capacity

/-- What output is built from an entry. -/
inductive Builds (c : Config) (arithmetic : Arithmetic) : PluginEntry → Output → Prop
  | stdout {entry : PluginEntry} : entry.Names .output .stdout → Builds c arithmetic entry .stdout
  | replay {entry : PluginEntry} {target : Target} : entry.Names .output .http →
      Target.parse (Text.trim entry.address) = .ok target → c.replay.opens arithmetic = true →
      Builds c arithmetic entry (.replay target c.replay)

/-- Whether the channels of the outputs that replay can be made. -/
def Fits (c : Config) : Prop :=
  c.replay.queueCapacity ≤ channelLimit ∧ c.replay.responseCapacity ≤ channelLimit

theorem buildInput_of_names (h : entry.Names .input .dummy) :
    buildInput c entry = .ok (.dummy c.dummyInterval) := by
  rw [buildInput, PluginKind.find?_eq_some_iff.2 h]

theorem buildInput_of_faulty (h : Faulty c arithmetic (.input, entry) why) :
    buildInput c entry = .error why := by
  cases h with | kind hnone =>
  rw [buildInput, PluginKind.find?_eq_none_iff.2 hnone]

theorem buildOutput_of_names_http (hnames : entry.Names .output .http) :
    buildOutput c arithmetic entry = buildReplay c arithmetic entry.address := by
  rw [buildOutput, PluginKind.find?_eq_some_iff.2 hnames]

/-- At a server only the channels and the pool can be in the way. -/
theorem buildReplay_of_parse {address : String} {target : Target}
    (hparse : Target.parse (Text.trim address) = .ok target) :
    buildReplay c arithmetic address =
      if (c.replay.queueCapacity ≤ channelLimit ∧ c.replay.responseCapacity ≤ channelLimit) ∧
          c.replay.opens arithmetic = true then
        .ok (.replay target c.replay)
      else .error .capacity := by
  delta buildReplay
  rw [hparse]

theorem buildOutput_of_builds (hfits : Fits c) {output : Output}
    (h : Builds c arithmetic entry output) : buildOutput c arithmetic entry = .ok output := by
  cases h with
  | stdout hnames => rw [buildOutput, PluginKind.find?_eq_some_iff.2 hnames]
  | replay hnames hparse hopens =>
    rw [buildOutput_of_names_http hnames, buildReplay_of_parse hparse]
    exact if_pos ⟨hfits, hopens⟩

theorem buildOutput_of_faulty (h : Faulty c arithmetic (.output, entry) why) :
    buildOutput c arithmetic entry = .error why := by
  cases h with
  | kind hnone => rw [buildOutput, PluginKind.find?_eq_none_iff.2 hnone]
  | target hnames hparse =>
    rw [buildOutput_of_names_http hnames]
    delta buildReplay
    rw [hparse]
  | pool hnames hparse hopens =>
    rw [buildOutput_of_names_http hnames, buildReplay_of_parse hparse]
    exact if_neg fun h => Bool.eq_false_iff.1 hopens h.2

theorem names_dummy_or_faulty (c : Config) (arithmetic : Arithmetic) (entry : PluginEntry) :
    entry.Names .input .dummy ∨ ∃ why, Faulty c arithmetic (.input, entry) why := by
  by_cases hnone : ∀ kind, ¬ entry.Names .input kind
  · exact .inr ⟨_, .kind hnone⟩
  · obtain ⟨kind, hnames⟩ := not_forall_not.1 hnone
    -- Among the inputs there is only one plugin.
    cases kind with
    | dummy => exact .inl hnames
    | stdout | http => cases hnames.1

theorem builds_or_faulty (c : Config) (arithmetic : Arithmetic) (entry : PluginEntry) :
    (∃ output, Builds c arithmetic entry output) ∨
      ∃ why, Faulty c arithmetic (.output, entry) why := by
  by_cases hnone : ∀ kind, ¬ entry.Names .output kind
  · exact .inr ⟨_, .kind hnone⟩
  · obtain ⟨kind, hnames⟩ := not_forall_not.1 hnone
    cases kind with
    | dummy => cases hnames.1
    | stdout => exact .inl ⟨_, .stdout hnames⟩
    | http =>
      cases hparse : Target.parse (Text.trim entry.address) with
      | ok target =>
        cases hopens : c.replay.opens arithmetic with
        | true => exact .inl ⟨_, .replay hnames hparse hopens⟩
        | false => exact .inr ⟨_, .pool hnames hparse hopens⟩
      | error why => exact .inr ⟨_, .target hnames hparse⟩

theorem buildInput_eq_ok_iff {input : Input} : buildInput c entry = .ok input ↔
    entry.Names .input .dummy ∧ input = .dummy c.dummyInterval := by
  constructor
  · intro h
    rcases names_dummy_or_faulty c .wrapping entry with hnames | ⟨why, hfaulty⟩
    · rw [buildInput_of_names hnames] at h
      exact ⟨hnames, (Except.ok.inj h).symm⟩
    · rw [buildInput_of_faulty hfaulty] at h
      cases h
  · rintro ⟨hnames, rfl⟩
    exact buildInput_of_names hnames

theorem buildInput_eq_error_iff :
    buildInput c entry = .error why ↔ Faulty c arithmetic (.input, entry) why := by
  refine ⟨fun h => ?_, buildInput_of_faulty⟩
  rcases names_dummy_or_faulty c arithmetic entry with hnames | ⟨other, hfaulty⟩
  · rw [buildInput_of_names hnames] at h
    cases h
  · rw [buildInput_of_faulty hfaulty] at h
    exact Except.error.inj h ▸ hfaulty

theorem buildOutput_eq_ok_iff (hfits : Fits c) {output : Output} :
    buildOutput c arithmetic entry = .ok output ↔ Builds c arithmetic entry output := by
  refine ⟨fun h => ?_, buildOutput_of_builds hfits⟩
  rcases builds_or_faulty c arithmetic entry with ⟨other, hbuilds⟩ | ⟨why, hfaulty⟩
  · rw [buildOutput_of_builds hfits hbuilds] at h
    exact Except.ok.inj h ▸ hbuilds
  · rw [buildOutput_of_faulty hfaulty] at h
    cases h

theorem buildOutput_eq_error_iff (hfits : Fits c) :
    buildOutput c arithmetic entry = .error why ↔ Faulty c arithmetic (.output, entry) why := by
  refine ⟨fun h => ?_, buildOutput_of_faulty⟩
  rcases builds_or_faulty c arithmetic entry with ⟨output, hbuilds⟩ | ⟨other, hfaulty⟩
  · rw [buildOutput_of_builds hfits hbuilds] at h
    cases h
  · rw [buildOutput_of_faulty hfaulty] at h
    exact Except.error.inj h ▸ hfaulty

/-! ## The fold -/

variable {α : Type} {build : PluginEntry → Except BuildError α} {add : Plugins → α → Plugins}
  {entries : List PluginEntry}

/-- Why building comes to nothing, if it does. -/
def failure? {α : Type} : Except BuildError α → Option BuildError
  | .error why => some why
  | .ok _ => Option.none

theorem failure?_eq_some_iff {x : Except BuildError α} : failure? x = some why ↔ x = .error why := by
  cases x with
  | error other => simp [failure?]
  | ok a => simp [failure?]

/-- Building entries one by one and adding what is built succeeds exactly if each entry by itself
can be built. -/
theorem foldlM_eq_ok_iff :
    entries.foldlM (fun p entry => do return add p (← build entry)) p = .ok q ↔
      ∃ built, List.Forall₂ (fun entry a => build entry = .ok a) entries built ∧
        q = built.foldl add p := by
  induction entries generalizing p with
  | nil =>
    constructor
    · intro h
      exact ⟨[], .nil, (Except.ok.inj h).symm⟩
    · rintro ⟨built, hbuilt, rfl⟩
      cases hbuilt
      rfl
  | cons entry rest ih =>
    rw [List.foldlM_cons]
    cases hentry : build entry with
    | error why =>
      constructor
      · intro h
        cases h
      · rintro ⟨built, hbuilt, -⟩
        cases hbuilt with | cons hbuild _ =>
        cases hentry.symm.trans hbuild
    | ok a =>
      refine Iff.trans (ih (p := add p a)) ?_
      constructor
      · rintro ⟨built, hbuilt, rfl⟩
        exact ⟨a :: built, .cons hentry hbuilt, rfl⟩
      · rintro ⟨built, hbuilt, rfl⟩
        cases hbuilt with | cons hbuild hrest =>
        obtain rfl := Except.ok.inj (hentry.symm.trans hbuild)
        exact ⟨_, hrest, rfl⟩

/-- The error is that of the first entry that cannot be built. -/
theorem failure?_foldlM :
    failure? (entries.foldlM (fun p entry => do return add p (← build entry)) p) =
      entries.findSome? fun entry => failure? (build entry) := by
  induction entries generalizing p with
  | nil => rfl
  | cons entry rest ih =>
    rw [List.foldlM_cons, List.findSome?_cons]
    cases build entry with
    | error why => rfl
    | ok a => exact ih

theorem foldl_withInput (p : Plugins) (inputs : List Input) :
    inputs.foldl withInput p = { p with inputs := p.inputs ++ inputs } := by
  induction inputs generalizing p with
  | nil => simp
  | cons input rest ih => simp [ih, withInput]

theorem foldl_withOutput (p : Plugins) (outputs : List Output) :
    outputs.foldl withOutput p =
      ⟨p.inputs ++ outputs.filterMap Output.asInput?, p.outputs ++ outputs⟩ := by
  induction outputs generalizing p with
  | nil => simp
  | cons output rest ih =>
    rw [List.foldl_cons, ih, withOutput]
    cases hinput : output.asInput? with
    | none => simp [hinput]
    | some input => simp [hinput]

/-! ## What is built -/

/-- Whether plugins are those that a configuration asks for: an output for each of its outputs, and
an input for each of its inputs, after which come the responses of the outputs that replay, if they
are kept. -/
structure AsConfigured (c : Config) (arithmetic : Arithmetic) (p : Plugins) : Prop where
  outputs : List.Forall₂ (Builds c arithmetic) c.outputs p.outputs
  inputs : ∃ own responses, p.inputs = own ++ responses ∧
    List.Forall₂ (fun entry input => entry.Names .input .dummy ∧ input = .dummy c.dummyInterval)
      c.inputs own ∧
    if c.replay.trackResponses then
      List.Forall₂ (fun entry input => ∃ target,
          Target.parse (Text.trim entry.address) = .ok target ∧ input = .responses target)
        (c.outputs.filter (·.Names .output .http)) responses
    else responses = []

/-- The inputs that come with the outputs. -/
theorem asInput?_of_builds {entries : List PluginEntry} {outputs : List Output}
    (h : List.Forall₂ (Builds c arithmetic) entries outputs) :
    if c.replay.trackResponses then
      List.Forall₂ (fun entry input => ∃ target,
          Target.parse (Text.trim entry.address) = .ok target ∧ input = .responses target)
        (entries.filter (·.Names .output .http)) (outputs.filterMap Output.asInput?)
    else outputs.filterMap Output.asInput? = [] := by
  by_cases htrack : c.replay.trackResponses = true
  · rw [if_pos htrack]
    induction h with
    | nil => exact .nil
    | @cons entry output rest built hbuilds _ ih =>
      cases hbuilds with
      | stdout hnames =>
        have hother : ¬ entry.Names .output .http := fun hhttp => by
          cases PluginKind.eq_of_names hnames hhttp
        rw [List.filter_cons_of_neg (by simpa using hother), List.filterMap_cons_none rfl]
        exact ih
      | @replay target hnames hparse =>
        have hinput : (Output.replay target c.replay).asInput? = some (.responses target) :=
          if_pos htrack
        rw [List.filter_cons_of_pos (by simpa using hnames), List.filterMap_cons_some hinput]
        exact .cons ⟨target, hparse, rfl⟩ ih
  · rw [if_neg htrack]
    induction h with
    | nil => rfl
    | cons hbuilds _ ih =>
      cases hbuilds with
      | stdout => exact ih
      | @replay target =>
        have hinput : (Output.replay target c.replay).asInput? = Option.none := if_neg htrack
        rw [List.filterMap_cons_none hinput]
        exact ih

theorem exists_of_ofConfig (h : ofConfig c arithmetic = .ok p) :
    ∃ own outputs, List.Forall₂ (fun entry input => buildInput c entry = .ok input) c.inputs own ∧
      List.Forall₂ (fun entry output => buildOutput c arithmetic entry = .ok output) c.outputs
        outputs ∧
      p = ⟨own ++ outputs.filterMap Output.asInput?, outputs⟩ := by
  rw [ofConfig] at h
  cases hinputs : c.inputs.foldlM (fun p entry => do
      return Plugins.withInput p (← buildInput c entry)) Plugins.none with
  | error why =>
    rw [hinputs] at h
    cases h
  | ok withInputs =>
    rw [hinputs] at h
    obtain ⟨own, hown, rfl⟩ := foldlM_eq_ok_iff.1 hinputs
    obtain ⟨outputs, houtputs, rfl⟩ := foldlM_eq_ok_iff.1 h
    refine ⟨own, outputs, hown, houtputs, ?_⟩
    rw [foldl_withInput, foldl_withOutput]
    rfl

theorem asConfigured_of_ofConfig (hfits : Fits c) (h : ofConfig c arithmetic = .ok p) :
    AsConfigured c arithmetic p := by
  obtain ⟨own, outputs, hown, houtputs, rfl⟩ := exists_of_ofConfig h
  have hbuilds : List.Forall₂ (Builds c arithmetic) c.outputs outputs :=
    houtputs.imp fun _ _ => (buildOutput_eq_ok_iff hfits).1
  exact ⟨hbuilds, own, _, rfl, hown.imp fun _ _ => buildInput_eq_ok_iff.1,
    asInput?_of_builds hbuilds⟩

/-! ## What goes wrong -/

/-- The entries in the order in which they are built, each with its role. -/
def entriesOf (c : Config) : List (Role × PluginEntry) :=
  c.inputs.map (Role.input, ·) ++ c.outputs.map (Role.output, ·)

/-- Why building an entry comes to nothing, if it does. -/
def entryFailure? (c : Config) (arithmetic : Arithmetic) : Role × PluginEntry → Option BuildError
  | (.input, entry) => failure? (buildInput c entry)
  | (.output, entry) => failure? (buildOutput c arithmetic entry)

theorem entryFailure?_eq_some_iff (hfits : Fits c) {e : Role × PluginEntry} :
    entryFailure? c arithmetic e = some why ↔ Faulty c arithmetic e why := by
  obtain ⟨role, entry⟩ := e
  cases role with
  | input => rw [entryFailure?, failure?_eq_some_iff, buildInput_eq_error_iff]
  | output => rw [entryFailure?, failure?_eq_some_iff, buildOutput_eq_error_iff hfits]

theorem entryFailure?_eq_none_iff (hfits : Fits c) {e : Role × PluginEntry} :
    entryFailure? c arithmetic e = Option.none ↔ ∀ why, ¬ Faulty c arithmetic e why := by
  rw [Option.eq_none_iff_forall_ne_some]
  exact forall_congr' fun why => not_congr (entryFailure?_eq_some_iff hfits)

theorem failure?_ofConfig (c : Config) (arithmetic : Arithmetic) :
    failure? (ofConfig c arithmetic) =
      (entriesOf c).findSome? (entryFailure? c arithmetic) := by
  have hinput : entryFailure? c arithmetic ∘ (Role.input, ·) =
      fun entry => failure? (buildInput c entry) := by
    funext entry
    rw [Function.comp, entryFailure?]
  have houtput : entryFailure? c arithmetic ∘ (Role.output, ·) =
      fun entry => failure? (buildOutput c arithmetic entry) := by
    funext entry
    rw [Function.comp, entryFailure?]
  have hinputs : failure? (c.inputs.foldlM (fun p entry => do
      return Plugins.withInput p (← buildInput c entry)) Plugins.none) =
        c.inputs.findSome? fun entry => failure? (buildInput c entry) := failure?_foldlM
  rw [entriesOf, List.findSome?_append, List.findSome?_map, List.findSome?_map, hinput, houtput,
    ← hinputs, ofConfig]
  -- The outputs are added to what the inputs came to, which makes no difference to errors.
  cases c.inputs.foldlM (fun p entry => do
      return Plugins.withInput p (← buildInput c entry)) Plugins.none with
  | error why => rfl
  | ok withInputs => exact failure?_foldlM

/-- Whether an address that names a server does so without the white space around it too. -/
def Trims (address : String) : Prop :=
  ∀ target, Target.parse address = .ok target → ∃ same, Target.parse (Text.trim address) = .ok same

/-- An entry in which no fault is found can be built. -/
theorem not_faulty_of_entryFaults {role : Role} (hnone : Config.entryFaults role entry = [])
    (htrims : role = .output → Trims entry.address)
    (hopens : role = .output → entry.Names .output .http → c.replay.opens arithmetic = true) :
    ¬ Faulty c arithmetic (role, entry) why := by
  rintro (hunknown | ⟨hhttp, hparse⟩ | ⟨hhttp, -, hclosed⟩)
  · rw [Config.entryFaults, PluginKind.find?_eq_none_iff.2 hunknown] at hnone
    cases hnone
  · rw [Config.entryFaults, PluginKind.find?_eq_some_iff.2 hhttp] at hnone
    dsimp only at hnone
    split at hnone
    · cases hnone
    · rw [if_pos rfl] at hnone
      cases hraw : Target.parse entry.address with
      | error other =>
        rw [hraw] at hnone
        cases hnone
      | ok target =>
        obtain ⟨same, hsame⟩ := htrims rfl target hraw
        cases hsame.symm.trans hparse
  · rw [hopens rfl hhttp] at hclosed
    cases hclosed

theorem entryFaults_of_faults (h : c.faults = []) :
    (∀ entry ∈ c.inputs, Config.entryFaults .input entry = []) ∧
      ∀ entry ∈ c.outputs, Config.entryFaults .output entry = [] := by
  simp only [Config.faults, List.append_eq_nil_iff, List.flatMap_eq_nil_iff] at h
  exact ⟨h.1.1.1.2, h.1.1.2⟩

/-- **What is found to have no faults can be built, unless its idle floor is out of reckoning.** For
a configuration whose channels can be made, and a program that checks its products or lets them wrap:
if the configuration has no faults, trimming spoils no address of its outputs, and its pool can be
opened where there is one to open, then there are plugins; if there are plugins, they are those that
it asks for; and if there are none, the error is that of the first entry, inputs before outputs, that
names no plugin of its role, or whose address, trimmed, names no server to replay to, or whose pool
cannot be opened. -/
theorem ofConfig_exact (hqueue : c.replay.queueCapacity ≤ channelLimit)
    (hresponses : c.replay.responseCapacity ≤ channelLimit) :
    (c.faults = [] → (∀ entry ∈ c.outputs, Trims entry.address) →
        (∀ entry ∈ c.outputs, entry.Names .output .http → c.replay.opens arithmetic = true) →
        ∃ p, ofConfig c arithmetic = .ok p) ∧
      (∀ p, ofConfig c arithmetic = .ok p → AsConfigured c arithmetic p) ∧
      ∀ why, ofConfig c arithmetic = .error why ↔
        ∃ before e after, entriesOf c = before ++ e :: after ∧ Faulty c arithmetic e why ∧
          ∀ earlier ∈ before, ∀ other, ¬ Faulty c arithmetic earlier other := by
  have hfits : Fits c := ⟨hqueue, hresponses⟩
  refine ⟨fun hnone htrims hopens => ?_, fun p => asConfigured_of_ofConfig hfits, fun why => ?_⟩
  · obtain ⟨hinputs, houtputs⟩ := entryFaults_of_faults hnone
    have hentries : (entriesOf c).findSome? (entryFailure? c arithmetic) = Option.none := by
      rw [List.findSome?_eq_none_iff]
      intro e he
      rw [entryFailure?_eq_none_iff hfits]
      intro why
      rcases List.mem_append.1 he with he | he
      · obtain ⟨entry, hentry, rfl⟩ := List.mem_map.1 he
        exact not_faulty_of_entryFaults (hinputs entry hentry) (fun h => by cases h)
          fun h => by cases h
      · obtain ⟨entry, hentry, rfl⟩ := List.mem_map.1 he
        exact not_faulty_of_entryFaults (houtputs entry hentry) (fun _ => htrims entry hentry)
          fun _ => hopens entry hentry
    cases hbuilt : ofConfig c arithmetic with
    | ok p => exact ⟨p, rfl⟩
    | error why =>
      rw [← failure?_ofConfig, hbuilt] at hentries
      cases hentries
  · rw [← failure?_eq_some_iff, failure?_ofConfig, List.findSome?_eq_some_iff]
    simp only [entryFailure?_eq_some_iff hfits, entryFailure?_eq_none_iff hfits]

/-- Made-up requests that are printed and replayed, the responses being kept. -/
def spaced : Config where
  inputs := [⟨" Dummy", ""⟩]
  outputs := [⟨"stdout", ""⟩, ⟨"HTTP ", "http://[::1]:8080\t "⟩]
  replay := { trackResponses := true }

theorem ofConfig_exact_spaced :
    spaced.replay.queueCapacity ≤ channelLimit ∧ spaced.replay.responseCapacity ≤ channelLimit ∧
      spaced.faults = [] ∧ (∀ entry ∈ spaced.outputs, Trims entry.address) ∧
      spaced.replay.opens .checked = true ∧
      ∃ p, ofConfig spaced .checked = .ok p ∧ AsConfigured spaced .checked p := by
  have hqueue : spaced.replay.queueCapacity ≤ channelLimit := by decide +kernel
  have hresponses : spaced.replay.responseCapacity ≤ channelLimit := by decide +kernel
  have hopens : spaced.replay.opens .checked = true := by decide +kernel
  have hdummy : PluginKind.find? .input " Dummy" = some .dummy := by decide +kernel
  have hstdout : PluginKind.find? .output "stdout" = some .stdout := by decide +kernel
  have hhttp : PluginKind.find? .output "HTTP " = some .http := by decide +kernel
  obtain ⟨target, hraw⟩ : ∃ t, Target.parse "http://[::1]:8080\t " = .ok t := ⟨_, by cbv⟩
  have htrimmed : ∃ t, Target.parse (Text.trim "http://[::1]:8080\t ") = .ok t := ⟨_, by cbv⟩
  have hlevel : (Log.Level.ofName? "info").isSome = true := by decide +kernel
  have hfaults : spaced.faults = [] := by
    have haddress : (Text.trim "http://[::1]:8080\t ").isEmpty = false := by decide +kernel
    simp [spaced, Config.faults, Config.entryFaults, Config.replayFaults,
      Config.observabilityFaults, Config.need, hdummy, hstdout, hhttp, hraw, haddress, hlevel,
      PluginKind.needsAddress]
  have htrims : ∀ entry ∈ spaced.outputs, Trims entry.address := by
    simp only [spaced, List.forall_mem_cons]
    have hempty : Text.trim "" = "" := by decide +kernel
    exact ⟨fun target htarget => ⟨target, hempty.symm ▸ htarget⟩, fun _ _ => htrimmed, by simp⟩
  obtain ⟨hbuilt, hconfigured, -⟩ := ofConfig_exact hqueue hresponses
  obtain ⟨p, hp⟩ := hbuilt hfaults htrims fun _ _ _ => hopens
  exact ⟨hqueue, hresponses, hfaults, htrims, hopens, p, hp, hconfigured p hp⟩

/-- A configuration with the largest idle floor that a document can hold. -/
def uncounted : Config where
  inputs := [⟨"dummy", ""⟩]
  outputs := [⟨"http", "[::1]:8080"⟩]
  replay := { idleWorkers := 9223372036854775807 }

theorem ofConfig_uncounted :
    uncounted.replay.queueCapacity ≤ channelLimit ∧
      uncounted.replay.responseCapacity ≤ channelLimit ∧ uncounted.faults = [] ∧
      (∀ entry ∈ uncounted.outputs, Trims entry.address) ∧
      ofConfig uncounted .checked = .error .capacity := by
  have hopens : uncounted.replay.opens .checked = false := by decide +kernel
  have hdummy : PluginEntry.Names ⟨"dummy", ""⟩ .input .dummy := by decide +kernel
  have hhttp : PluginEntry.Names ⟨"http", "[::1]:8080"⟩ .output .http := by decide +kernel
  have hsame : Text.trim "[::1]:8080" = "[::1]:8080" := by decide +kernel
  obtain ⟨target, hparse⟩ : ∃ t, Target.parse "[::1]:8080" = .ok t := ⟨_, by cbv⟩
  have hlevel : (Log.Level.ofName? "info").isSome = true := by decide +kernel
  refine ⟨by decide +kernel, by decide +kernel, ?_, ?_, ?_⟩
  · have hinput : PluginKind.find? .input "dummy" = some .dummy := by decide +kernel
    have houtput : PluginKind.find? .output "http" = some .http := by decide +kernel
    have haddress : ("[::1]:8080" : String).isEmpty = false := by decide +kernel
    simp [uncounted, Config.faults, Config.entryFaults, Config.replayFaults,
      Config.observabilityFaults, Config.need, hinput, houtput, hparse, hsame, haddress, hlevel,
      PluginKind.needsAddress]
  · simp only [uncounted, List.forall_mem_singleton]
    exact fun target htarget => ⟨target, hsame.symm ▸ htarget⟩
  · have hfaulty : Faulty uncounted .checked (.output, ⟨"http", "[::1]:8080"⟩) .capacity :=
      .pool hhttp (hsame.symm ▸ hparse) hopens
    have hentries : entriesOf uncounted =
        [(.input, ⟨"dummy", ""⟩), (.output, ⟨"http", "[::1]:8080"⟩)] := rfl
    rw [← failure?_eq_some_iff, failure?_ofConfig, hentries, List.findSome?_cons,
      List.findSome?_cons, entryFailure?, entryFailure?, buildInput_of_names hdummy,
      buildOutput_of_faulty hfaulty]
    rfl

end Plugins
end HttpReplay
