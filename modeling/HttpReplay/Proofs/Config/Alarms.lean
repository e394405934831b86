import HttpReplay.Proofs.Plugin.Assembly
import HttpReplay.Proofs.Target.Surroundings

/-!
Faults that are found in entries from which plugins can be built.

An entry that can be built by itself names a plugin of its role, and if that plugin is to replay,
the address without the white space around it names a server. So the faults that can still be found
in it are those of the address as it is written: none, where white space around it makes no
difference (`Target.Undisturbed`), and one bad target where it does (`entryFaults_of_builds`). What
is found in an entry does not depend on the rest of the configuration, so this is what is found in it
wherever it is (`false_alarm_iff`).
-/

set_option autoImplicit false

namespace HttpReplay

/-- Whether a fault is one of an entry. -/
def ConfigFault.isOfEntry : ConfigFault → Bool
  | unknownKind .. | noAddress .. | badTarget .. => true
  | noInputs | noOutputs | zeroCapacity .. | badLogLevel .. | badMetricsAddress .. => false

namespace Config

open Plugins (entriesOf)

variable {c c' : Config} {arithmetic : Arithmetic} {role : Role} {entry : PluginEntry}
  {p : Plugins}

/-- The faults of an entry in its role. -/
def faultsOf (e : Role × PluginEntry) : List ConfigFault := entryFaults e.1 e.2

/-! ## Faults of entries among all faults -/

theorem isOfEntry_of_mem_entryFaults {fault : ConfigFault} (h : fault ∈ entryFaults role entry) :
    fault.isOfEntry = true := by
  unfold entryFaults at h
  repeat' split at h
  all_goals simp only [List.mem_singleton, List.not_mem_nil] at h
  all_goals rw [h]; rfl

theorem filter_need {holds : Bool} {fault : ConfigFault} (h : fault.isOfEntry = false) :
    (need holds fault).filter ConfigFault.isOfEntry = [] := by
  cases holds with
  | true => rfl
  | false => exact List.filter_cons_of_neg (by rw [h]; decide)

theorem filter_flatMap (role : Role) (entries : List PluginEntry) :
    (entries.flatMap (entryFaults role)).filter ConfigFault.isOfEntry =
      (entries.map (role, ·)).flatMap faultsOf := by
  rw [List.flatMap_map, List.filter_eq_self.2]
  · rfl
  · intro fault hfault
    obtain ⟨entry, -, hmem⟩ := List.mem_flatMap.1 hfault
    exact isOfEntry_of_mem_entryFaults hmem

/-- The faults of the entries are found in the order of the entries. -/
theorem filter_faults (c : Config) :
    c.faults.filter ConfigFault.isOfEntry = (entriesOf c).flatMap faultsOf := by
  simp only [faults, replayFaults, observabilityFaults, List.filter_append, filter_flatMap]
  rw [filter_need rfl, filter_need rfl, filter_need rfl, filter_need rfl, filter_need rfl,
    filter_need rfl, entriesOf, List.flatMap_append]
  simp

/-! ## Entries that can be built -/

/-- From an entry by itself something is built if it has no failure. -/
theorem exists_ofConfig_iff (halone : entriesOf c = [(role, entry)]) :
    (∃ p, Plugins.ofConfig c arithmetic = .ok p) ↔
      Plugins.entryFailure? c arithmetic (role, entry) = none := by
  have hfailure := Plugins.failure?_ofConfig c arithmetic
  rw [halone] at hfailure
  constructor
  · rintro ⟨p, hp⟩
    rw [hp] at hfailure
    exact List.findSome?_eq_none_iff.1 hfailure.symm _ (List.mem_singleton_self _)
  · intro hnone
    cases hbuilt : Plugins.ofConfig c arithmetic with
    | ok p => exact ⟨p, rfl⟩
    | error why =>
      rw [hbuilt, List.findSome?_cons, hnone] at hfailure
      cases hfailure

/-- An empty address names no server. -/
theorem isEmpty_of_parse {address : String} {target : Target}
    (h : Target.parse address = .ok target) : address.isEmpty = false := by
  rw [Bool.eq_false_iff]
  intro hempty
  obtain rfl := String.isEmpty_iff.1 hempty
  have hnone : Target.parse "" = .error (.malformed "http://" (.host .empty)) := by cbv
  rw [hnone] at h
  cases h

/-- What an entry that can be built names. -/
theorem names_of_entryFailure? (h : Plugins.entryFailure? c arithmetic (role, entry) = none) :
    entry.Names role .dummy ∨ entry.Names role .stdout ∨
      entry.Names role .http ∧ ∃ target, Target.parse (Text.trim entry.address) = .ok target := by
  cases role with
  | input =>
    rcases Plugins.names_dummy_or_faulty c arithmetic entry with hnames | ⟨why, hfaulty⟩
    · exact .inl hnames
    · rw [Plugins.entryFailure?, Plugins.buildInput_of_faulty hfaulty] at h
      cases h
  | output =>
    rcases Plugins.builds_or_faulty c arithmetic entry with ⟨output, hbuilds⟩ | ⟨why, hfaulty⟩
    · cases hbuilds with
      | stdout hnames => exact .inr (.inl hnames)
      | replay hnames hparse => exact .inr (.inr ⟨hnames, _, hparse⟩)
    · rw [Plugins.entryFailure?, Plugins.buildOutput_of_faulty hfaulty] at h
      cases h

theorem entryFaults_of_names {kind : PluginKind} (hnames : entry.Names role kind)
    (hother : kind ≠ .http) : entryFaults role entry = [] := by
  have hneeds : kind.needsAddress = false := by
    cases kind with
    | http => exact absurd rfl hother
    | dummy | stdout => rfl
  rw [entryFaults, PluginKind.find?_eq_some_iff.2 hnames]
  dsimp only
  rw [hneeds, Bool.false_and, if_neg Bool.false_ne_true, if_neg hother]

theorem entryFaults_of_names_http (hnames : entry.Names role .http)
    (haddress : (Text.trim entry.address).isEmpty = false) :
    entryFaults role entry = match Target.parse entry.address with
      | .error why => [.badTarget entry.address why]
      | .ok _ => [] := by
  rw [entryFaults, PluginKind.find?_eq_some_iff.2 hnames]
  dsimp only
  cases Target.parse entry.address with
  | error why => rw [haddress, Bool.and_false, if_neg Bool.false_ne_true, if_pos rfl]
  | ok target => rw [haddress, Bool.and_false, if_neg Bool.false_ne_true, if_pos rfl]

/-- **What is found in an entry that can be built**: that its address is malformed, where it is to
replay and white space around the address makes a difference, and nothing anywhere else. -/
theorem entryFaults_of_builds (h : Plugins.entryFailure? c arithmetic (role, entry) = none) :
    ((entry.Names role .http → Target.Undisturbed entry.address) → entryFaults role entry = []) ∧
      (¬ (entry.Names role .http → Target.Undisturbed entry.address) → ∃ why,
        entryFaults role entry =
          [.badTarget entry.address (.malformed (Target.withScheme entry.address) why)]) := by
  have hother {kind : PluginKind} (hnames : entry.Names role kind) (hkind : kind ≠ .http) :
      ¬ entry.Names role .http := fun hhttp => hkind (PluginKind.eq_of_names hnames hhttp)
  rcases names_of_entryFailure? h with hnames | hnames | ⟨hnames, target, hparse⟩
  · exact ⟨fun _ => entryFaults_of_names hnames (by decide),
      fun hnot => absurd (fun hhttp => absurd hhttp (hother hnames (by decide))) hnot⟩
  · exact ⟨fun _ => entryFaults_of_names hnames (by decide),
      fun hnot => absurd (fun hhttp => absurd hhttp (hother hnames (by decide))) hnot⟩
  · rw [entryFaults_of_names_http hnames (isEmpty_of_parse hparse)]
    have hsurrounded := Target.parse_surrounded hparse
    constructor
    · intro hundisturbed
      rw [hsurrounded.same (hundisturbed hnames)]
    · intro hnot
      obtain ⟨why, hwhy⟩ := hsurrounded.malformed fun hundisturbed => hnot fun _ => hundisturbed
      exact ⟨why, by rw [hwhy]⟩

/-- **Validation and building part only over white space around addresses.** Let an entry be one
from which, alone in its role, something can be built. In every configuration that it is in, the
faults of entries are those of the entries before it, its own and those of the entries after it; and
it has none of its own, unless it is to replay and the white space around its address makes a
difference. Then it has one, a bad target. -/
theorem false_alarm_iff (halone : entriesOf c = [(role, entry)])
    (hbuilt : Plugins.ofConfig c arithmetic = .ok p) {before after : List (Role × PluginEntry)}
    (hplace : entriesOf c' = before ++ (role, entry) :: after) :
    ∃ own, c'.faults.filter ConfigFault.isOfEntry =
        before.flatMap faultsOf ++ own ++ after.flatMap faultsOf ∧
      (own = [] ↔ (entry.Names role .http → Target.Undisturbed entry.address)) ∧
      (own ≠ [] → ∃ why,
        own = [.badTarget entry.address (.malformed (Target.withScheme entry.address) why)]) := by
  refine ⟨entryFaults role entry, ?_, ?_⟩
  · rw [filter_faults, hplace, List.flatMap_append, List.flatMap_cons, List.append_assoc]
    rfl
  · obtain ⟨hnone, hone⟩ := entryFaults_of_builds ((exists_ofConfig_iff halone).1 ⟨p, hbuilt⟩)
    by_cases hundisturbed : entry.Names role .http → Target.Undisturbed entry.address
    · exact ⟨iff_of_true (hnone hundisturbed) hundisturbed, fun h => absurd (hnone hundisturbed) h⟩
    · obtain ⟨why, hwhy⟩ := hone hundisturbed
      refine ⟨iff_of_false ?_ hundisturbed, fun _ => ⟨why, hwhy⟩⟩
      rw [hwhy]
      exact List.cons_ne_nil _ _

/-- An output that replays, by itself. -/
theorem exists_ofConfig_replay (hnames : entry.Names .output .http)
    (hparse : ∃ target, Target.parse (Text.trim entry.address) = .ok target) :
    ∃ p, Plugins.ofConfig { outputs := [entry] } = .ok p := by
  have hlimit : Plugins.Fits {} := ⟨by decide +kernel, by decide +kernel⟩
  have hfits : Plugins.Fits { outputs := [entry] } := hlimit
  have hopens : ({} : Pool.Settings).opens .checked = true := by decide +kernel
  obtain ⟨target, htarget⟩ := hparse
  rw [exists_ofConfig_iff rfl, Plugins.entryFailure?,
    Plugins.buildOutput_of_builds hfits (.replay hnames htarget hopens)]
  rfl

/-- An output that replays to an address with white space on either side, before a user and behind a
path. -/
def guarded : PluginEntry := ⟨" HTTP", " u@[::1]:8080/\u3000"⟩

/-- A configuration in which it comes after an output of no known kind. -/
def mixed : Config where
  inputs := [⟨"dummy", ""⟩]
  outputs := [⟨"tcp", ""⟩, guarded, ⟨"stdout", ""⟩]

theorem false_alarm_iff_guarded :
    (∃ p, Plugins.ofConfig { outputs := [guarded] } = .ok p) ∧
      guarded.Names .output .http ∧ Text.trim guarded.address ≠ guarded.address ∧
      mixed.faults.filter ConfigFault.isOfEntry = [.unknownKind .output "tcp"] := by
  have hnames : guarded.Names .output .http := by decide +kernel
  obtain ⟨target, htarget⟩ : ∃ t, Target.parse (Text.trim " u@[::1]:8080/\u3000") = .ok t :=
    ⟨_, by cbv⟩
  have hscheme : Target.hasScheme " u@[::1]:8080/\u3000" = false := by decide +kernel
  have hbefore : Target.FitsBefore guarded.address := by
    rw [guarded, Target.FitsBefore, hscheme, if_neg Bool.false_ne_true]
    exact .inr (by decide +kernel)
  have hbehind : Target.FitsBehind guarded.address :=
    .inr ⟨.http, "u@[::1]:8080/".toList, by decide +kernel, by decide +kernel⟩
  obtain ⟨p, hp⟩ := exists_ofConfig_replay hnames ⟨target, htarget⟩
  have hplace : entriesOf mixed = [(.input, ⟨"dummy", ""⟩), (.output, ⟨"tcp", ""⟩)] ++
      (.output, guarded) :: [(.output, ⟨"stdout", ""⟩)] := rfl
  obtain ⟨own, hfaults, hnone, -⟩ := false_alarm_iff rfl hp hplace
  refine ⟨⟨p, hp⟩, hnames, by decide +kernel, ?_⟩
  rw [hfaults, hnone.2 fun _ => ⟨hbefore, hbehind⟩]
  have hdummy : PluginKind.find? .input "dummy" = some .dummy := by decide +kernel
  have htcp : PluginKind.find? .output "tcp" = none := by decide +kernel
  have hstdout : PluginKind.find? .output "stdout" = some .stdout := by decide +kernel
  simp [faultsOf, entryFaults, hdummy, htcp, hstdout, PluginKind.needsAddress]

/-- An output that replays to an address with a space in front. -/
def indented : PluginEntry := ⟨"http", " [::1]:8080"⟩

theorem false_alarm :
    ∃ p why, Plugins.ofConfig { outputs := [indented] } = .ok p ∧
      ({ inputs := [⟨"dummy", ""⟩], outputs := [indented] } : Config).faults =
        [.badTarget " [::1]:8080" (.malformed "http:// [::1]:8080" why)] := by
  have hnames : indented.Names .output .http := by decide +kernel
  obtain ⟨target, htarget⟩ : ∃ t, Target.parse (Text.trim " [::1]:8080") = .ok t := ⟨_, by cbv⟩
  have hscheme : Target.hasScheme " [::1]:8080" = false := by decide +kernel
  have hdisturbed : ¬ Target.Undisturbed indented.address := by
    -- The space is no line break, and there is no user that it could be a part of.
    rintro ⟨hbefore, -⟩
    rw [indented, Target.FitsBefore, hscheme, if_neg Bool.false_ne_true] at hbefore
    rcases hbefore with hkept | hat
    · exact absurd (hkept ' ' (by decide +kernel)) (by decide)
    · exact absurd hat (by decide +kernel)
  obtain ⟨p, hp⟩ := exists_ofConfig_replay hnames ⟨target, htarget⟩
  obtain ⟨-, hone⟩ := entryFaults_of_builds ((exists_ofConfig_iff rfl).1 ⟨p, hp⟩)
  obtain ⟨why, hwhy⟩ := hone fun hundisturbed => hdisturbed (hundisturbed hnames)
  have hurl : Target.withScheme " [::1]:8080" = "http:// [::1]:8080" := by
    rw [Target.withScheme, hscheme, if_neg Bool.false_ne_true]
    rfl
  have hbad : entryFaults .output indented =
      [.badTarget " [::1]:8080" (.malformed "http:// [::1]:8080" why)] := by
    rw [hwhy, ← hurl]
    rfl
  have hnamed : PluginEntry.Names ⟨"dummy", ""⟩ .input .dummy := by decide +kernel
  have hdummy : entryFaults .input ⟨"dummy", ""⟩ = [] := entryFaults_of_names hnamed (by decide)
  have hlevel : (Log.Level.ofName? "info").isSome = true := by decide +kernel
  refine ⟨p, why, hp, ?_⟩
  simp [faults, replayFaults, observabilityFaults, need, hbad, hdummy, hlevel]

end Config
end HttpReplay
