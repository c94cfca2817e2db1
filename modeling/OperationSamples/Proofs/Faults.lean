import OperationSamples.Proofs.Completion
import OperationSamples.Proofs.Dictionaries
import OperationSamples.Proofs.Draws
import OperationSamples.Proofs.ValidSchema

/-!
How a run fails.

With a valid schema a run fails for scalars that the configuration gives generators for, and for
nothing else: the built-in scalars and those without a generator always have samples. A fault of the
configuration names the scalar and its generator (`Config.Reports`). What a provider does can also
leave the run without a report: it raises an exception that is not handled, or one that is handled
for arguments that cannot be shown, or returns a value without a JSON form (`Providers.escape?`). A
run ends so exactly if this happens at the first place without a sample (`faults_of_runs`). With the
generators of `Generator.refusing` it does not happen.
-/

namespace OperationSamples

/-- Whether a fault tells a scalar of the configuration and its generator in a message. -/
def Config.Reports (config : Config) (fault : BuildFault) : Prop :=
  ∃ scalar spec cause, (scalar, spec) ∈ config.scalars ∧ fault = .sample cause ∧
    (cause.message? = some ("Invalid generator \"" ++ spec.generator ++ "\" for scalar \"" ++ scalar
        ++ "\"") ∨
      cause.message? = some ("Invalid arguments " ++ spec.arguments.display ++ " for generator \""
        ++ spec.generator ++ "\" of scalar \"" ++ scalar ++ "\""))

/-- What leaves a run without a report when a generator is called, if anything does. -/
def Providers.escape? (providers : Providers) (seed : UInt32) (spec : ScalarSpec) :
    Option SampleFault :=
  match providers.call seed spec.generator spec.callArguments with
  | .error exception =>
    if exception.isHandled = false then some (.escaped exception)
    else if spec.arguments.isWritable = false then some (.unwritable spec.arguments)
    else none
  | .ok value => if value.toJson? = none then some .unconvertible else none

namespace Oracle

variable {oracle : Oracle} {place : ScalarPlace} {spec : ScalarSpec} {fault : SampleFault}

/-- A generator that gives no sample is reported, unless something escapes. -/
theorem generate_eq_error_iff : oracle.generate place spec = .error fault ↔
    oracle.providers.escape? place.seed spec = some fault ∨
      oracle.providers.escape? place.seed spec = none ∧
        fault = .badArguments spec.arguments spec.generator place.scalar ∧
        ∃ exception, oracle.providers.call place.seed spec.generator spec.callArguments =
          .error exception := by
  unfold generate Providers.escape?
  cases oracle.providers.call place.seed spec.generator spec.callArguments with
  | error exception =>
    cases hhandled : exception.isHandled <;> cases hwritable : spec.arguments.isWritable <;>
      simp [faultOf, hhandled, hwritable, eq_comm]
  | ok value =>
    cases hjson : value.toJson? <;> simp [hjson]

theorem message?_of_escape? {providers : Providers} {seed : UInt32}
    (h : providers.escape? seed spec = some fault) : fault.message? = none := by
  unfold Providers.escape? at h
  split at h
  · split at h
    · cases h
      rfl
    · split at h <;> cases h
      rfl
  · split at h <;> cases h
    rfl

/-- A draw that does not fail gives a value. -/
theorem exists_fromSeed {α : Type} {draw : Draw α} {post : α → Prop}
    (h : draw.Meets (fun _ => False) post) (seed : UInt32) : ∃ a, draw.fromSeed seed = .ok a := by
  unfold Draw.fromSeed
  cases hrun : draw.run (Twister.seed seed) with
  | ok result => exact ⟨result.1, rfl⟩
  | error fault => exact ((h _).1 fault hrun).elim

/-- Only a scalar with a generator can be without a sample. -/
theorem exists_spec_of_fault (h : oracle.sample place = .error fault) :
    ∃ spec, Members.get? oracle.scalars place.scalar = some spec ∧
      oracle.generate place spec = .error fault := by
  unfold sample at h
  cases hspec : Members.get? oracle.scalars place.scalar with
  | some spec =>
    rw [hspec] at h
    exact ⟨spec, rfl, h⟩
  | none =>
    rw [hspec] at h
    dsimp only at h
    split at h
    · next draw hdraw =>
      obtain ⟨value, hvalue⟩ :=
        exists_fromSeed (Scalar.meets_builtin? hdraw fun _ => False) place.seed
      rw [hvalue] at h
      cases h
    · cases h

theorem sample_of_spec (h : Members.get? oracle.scalars place.scalar = some spec) :
    oracle.sample place = oracle.generate place spec := by
  rw [sample, h]

/-- The first fault is that of the first place without a sample. -/
theorem firstFault?_eq_some_iff {places : List ScalarPlace} :
    oracle.firstFault? places = some fault ↔ ∃ before place after,
      places = before ++ place :: after ∧ oracle.sample place = .error fault ∧
        ∀ other ∈ before, ∃ value, oracle.sample other = .ok value := by
  rw [firstFault?, List.findSome?_eq_some_iff]
  refine exists_congr fun before => exists_congr fun place => exists_congr fun after => ?_
  rw [fault?_eq_some_iff]
  exact and_congr_right fun _ => and_congr_right fun _ =>
    forall₂_congr fun other _ => succeeds_iff_fault?.symm

theorem exists_of_checkGenerators (h : oracle.checkGenerators = .error fault) :
    ∃ scalar spec, (scalar, spec) ∈ oracle.scalars ∧
      fault = .unknownGenerator spec.generator scalar := by
  unfold checkGenerators at h
  split at h
  · next scalar spec hfind =>
    exact ⟨scalar, spec, List.mem_of_find?_eq_some hfind, (Except.error.inj h).symm⟩
  · cases h

end Oracle

namespace Config

variable {config : Config} {scalar : String} {spec : ScalarSpec}

theorem reports_unknownGenerator (h : (scalar, spec) ∈ config.scalars) :
    config.Reports (.sample (.unknownGenerator spec.generator scalar)) :=
  ⟨scalar, spec, _, h, rfl, .inl rfl⟩

theorem reports_badArguments (h : (scalar, spec) ∈ config.scalars) :
    config.Reports (.sample (.badArguments spec.arguments spec.generator scalar)) :=
  ⟨scalar, spec, _, h, rfl, .inr rfl⟩

theorem not_reports_of_message? {fault : SampleFault} (h : fault.message? = none) :
    ¬ config.Reports (.sample fault) := by
  rintro ⟨scalar, spec, cause, -, hcause, hmessage⟩
  obtain rfl := BuildFault.sample.inj hcause
  rw [h] at hmessage
  rcases hmessage with hmessage | hmessage <;> cases hmessage

end Config

namespace Run

variable {providers : Providers} {schema : Schema} {config : Config}
  {sources : List SourceDocument}

/-- The fault of a run with a valid schema. -/
theorem fault?_of_valid (hvalid : schema.issues = []) (providers : Providers) (config : Config)
    (sources : List SourceDocument) :
    fault? (generateSamples providers schema config sources).result =
      ((fault? (config.oracle providers).checkGenerators).or
        ((config.oracle providers).firstFault? (places providers schema config sources))).map
          .sample :=
  fault?_result (Schema.hasOutputFields_of_valid hvalid)
    (fun _ _ h => TypeDef.isComposite_iff.2 (.inl (Schema.isObject_of_rootType? hvalid h))) config
    sources

/-- A run that fails reports it, unless something escapes at the first place without a sample. -/
theorem reports_or_escapes (hvalid : schema.issues = []) {fault : BuildFault}
    (h : (generateSamples providers schema config sources).result = .error fault) :
    config.Reports fault ∨
      (config.oracle providers).checkGenerators = .ok () ∧ ∃ before place after spec cause,
        places providers schema config sources = before ++ place :: after ∧
        (∀ other ∈ before, ∃ value, (config.oracle providers).sample other = .ok value) ∧
        Members.get? config.scalars place.scalar = some spec ∧
        providers.escape? place.seed spec = some cause ∧ fault = .sample cause := by
  rw [← fault?_eq_some_iff, fault?_of_valid hvalid, Option.map_eq_some_iff] at h
  obtain ⟨cause, hcause, rfl⟩ := h
  cases hcheck : (config.oracle providers).checkGenerators with
  | error own =>
    obtain ⟨scalar, spec, hspec, rfl⟩ := Oracle.exists_of_checkGenerators hcheck
    rw [hcheck] at hcause
    obtain rfl := Option.some.inj hcause
    exact .inl (Config.reports_unknownGenerator hspec)
  | ok _ =>
    rw [hcheck] at hcause
    obtain ⟨before, place, after, hplaces, hsample, hbefore⟩ :=
      Oracle.firstFault?_eq_some_iff.1 hcause
    obtain ⟨spec, hspec, hgenerate⟩ := Oracle.exists_spec_of_fault hsample
    rcases Oracle.generate_eq_error_iff.1 hgenerate with hescape | ⟨-, rfl, -⟩
    · exact .inr ⟨rfl, before, place, after, spec, cause, hplaces, hbefore, hspec, hescape, rfl⟩
    · exact .inl (Config.reports_badArguments (Members.mem_of_get? hspec))

theorem result_of_first_fault (hvalid : schema.issues = []) {before after : List ScalarPlace}
    {place : ScalarPlace} {cause : SampleFault}
    (hcheck : (config.oracle providers).checkGenerators = .ok ())
    (hplaces : places providers schema config sources = before ++ place :: after)
    (hbefore : ∀ other ∈ before, ∃ value, (config.oracle providers).sample other = .ok value)
    (hsample : (config.oracle providers).sample place = .error cause) :
    (generateSamples providers schema config sources).result = .error (.sample cause) := by
  rw [← fault?_eq_some_iff, fault?_of_valid hvalid, hcheck,
    Oracle.firstFault?_eq_some_iff.2 ⟨before, place, after, hplaces, hsample, hbefore⟩]
  rfl

end Run

/-- **Failures.** With a valid schema and whatever the providers do, a run returns, or it reports a
scalar of the configuration and its generator, or something escapes. The last happens exactly if the
generators exist and something escapes at the first place without a sample, from the call of the
generator that its scalar is given; the run then ends with what escapes there. So every failure is
reported if the calls of the generators let nothing escape. -/
theorem faults_of_runs (providers : Providers) {schema : Schema} (hvalid : schema.issues = [])
    (config : Config) (sources : List SourceDocument) :
    let result := (generateSamples providers schema config sources).result
    (∀ fault, result = .error fault ∧ ¬ config.Reports fault ↔
      (config.oracle providers).checkGenerators = .ok () ∧ ∃ before place after spec cause,
        Run.places providers schema config sources = before ++ place :: after ∧
        (∀ other ∈ before, ∃ value, (config.oracle providers).sample other = .ok value) ∧
        Members.get? config.scalars place.scalar = some spec ∧
        providers.escape? place.seed spec = some cause ∧ fault = .sample cause) ∧
    ((∀ entry ∈ config.scalars, ∀ seed, providers.escape? seed entry.2 = none) →
      ∀ fault, result = .error fault → config.Reports fault) := by
  intro result
  refine ⟨fun fault => ⟨?_, ?_⟩, fun hnone fault hfault => ?_⟩
  · rintro ⟨hfault, hsilent⟩
    exact (Run.reports_or_escapes hvalid hfault).resolve_left hsilent
  · rintro ⟨hcheck, before, place, after, spec, cause, hplaces, hbefore, hspec, hescape, rfl⟩
    have hsample : (config.oracle providers).sample place = .error cause := by
      rw [Oracle.sample_of_spec hspec]
      exact Oracle.generate_eq_error_iff.2 (.inl hescape)
    exact ⟨Run.result_of_first_fault hvalid hcheck hplaces hbefore hsample,
      Config.not_reports_of_message? (Oracle.message?_of_escape? hescape)⟩
  · rcases Run.reports_or_escapes hvalid hfault with hreports |
      ⟨-, _, place, _, spec, cause, -, -, hspec, hescape, -⟩
    · exact hreports
    · rw [hnone _ (Members.mem_of_get? hspec)] at hescape
      cases hescape

/-- The generators of the catalogue that only refuse arguments let nothing escape. -/
theorem Generator.escape?_of_refusing {spec : ScalarSpec} (h : spec.generator ∈ refusing)
    (hwritable : spec.arguments.isWritable = true) (now : Int) (seed : UInt32) :
    (providers now).escape? seed spec = none := by
  have hcall : (providers now).call seed spec.generator spec.callArguments =
    ((run now spec.generator spec.callArguments).fromSeed seed).mapError exceptionOf := rfl
  obtain ⟨hfault, hpost⟩ := refuses_run h now spec.callArguments (Twister.seed seed)
  unfold Providers.escape?
  rw [hcall, Draw.fromSeed]
  cases hrun : (run now spec.generator spec.callArguments).run (Twister.seed seed) with
  | error fault =>
    obtain rfl := hfault fault hrun
    simp [Except.map, Except.mapError, exceptionOf, ProviderException.isHandled, hwritable]
  | ok result =>
    have hjson := hpost result.1 result.2 hrun
    simp [Except.map, Except.mapError, Option.isSome_iff_ne_none.1 hjson]

/-- A template that is no text is reported. -/
theorem faults_of_runs_template :
    let config := { Config.defaults with scalars := [("Moment", ⟨"numerify", .one (.int 3)⟩)] }
    let result :=
      (generateSamples Pets.providers Pets.dated config (Pets.query [Pets.leaf "now"])).result
    Pets.dated.issues = [] ∧
      (∀ entry ∈ config.scalars, ∀ seed, Pets.providers.escape? seed entry.2 = none) ∧
      ∃ fault, result = .error fault ∧ config.Reports fault := by
  intro config result
  have hvalid : Pets.dated.issues = [] := by decide +kernel
  have hnone : ∀ entry ∈ config.scalars, ∀ seed, Pets.providers.escape? seed entry.2 = none := by
    have hrefusing : ∀ entry ∈ config.scalars, entry.2.generator ∈ Generator.refusing ∧
        entry.2.arguments.isWritable = true := by
      decide +kernel
    exact fun entry hentry seed => Generator.escape?_of_refusing (hrefusing entry hentry).1
      (hrefusing entry hentry).2 0 seed
  have hfault : fault? result =
      some (.sample (.badArguments (.one (.int 3)) "numerify" "Moment")) := by decide +kernel
  rw [fault?_eq_some_iff] at hfault
  exact ⟨hvalid, hnone, _, hfault,
    (faults_of_runs Pets.providers hvalid config _).2 hnone _ hfault⟩

/-- To choose a character of an empty text fails without a report. -/
theorem empty_choice_not_reported :
    let config :=
      { Config.defaults with scalars := [("Moment", ⟨"random_element", .one (.text "")⟩)] }
    let result :=
      (generateSamples Pets.providers Pets.dated config (Pets.query [Pets.leaf "now"])).result
    Pets.dated.issues = [] ∧ (config.oracle Pets.providers).checkGenerators = .ok () ∧
      result = .error (.sample (.escaped (.other "IndexError"))) ∧
      ∀ fault, result = .error fault → ¬ config.Reports fault := by
  intro config result
  have hfault : fault? result = some (.sample (.escaped (.other "IndexError"))) := by
    decide +kernel
  rw [fault?_eq_some_iff] at hfault
  refine ⟨by decide +kernel, by decide +kernel, hfault, fun fault hother => ?_⟩
  rw [hfault] at hother
  obtain rfl := Except.error.inj hother
  exact Config.not_reports_of_message? rfl

end OperationSamples
