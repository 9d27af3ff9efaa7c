import Ployz.Base.Admission
import Ployz.Caddy.Generator

/-!
# What a generated Caddyfile holds

The Caddyfile is described without the loops that build it. A config is offered with the text
accepted before it; the verdict is what the template engine and the validator say of it. An outcome
lists what was accepted and what was skipped. By `Isolated` every entry is the verdict on that one
config, next to the accepted configs of the services before it: a config that was skipped shows in
no other verdict.
-/

namespace Ployz.Caddy

open Docker Admission List

/-- Why a config was left out. -/
inductive Failure where
  | render (error : String)
  | validation (error : String)
deriving DecidableEq

/-- A service whose config was left out. -/
structure Skipped where
  service : String
  failure : Failure
deriving DecidableEq

/-- The note on a config that was left out. -/
def Skipped.note (self : Skipped) : String :=
  "service '" ++ self.service ++
    match self.failure with
    | .render error => "': failed to render template: " ++ error
    | .validation error => "': validation failed: " ++ error

/-- The text with a global config. -/
def withGlobal (base rendered : String) : String :=
  "# User-defined global config from service '" ++ caddyServiceName ++ "'.\n" ++ rendered ++
    "\n\n" ++ base

/-- The text with the config of one more service. -/
def withService (text : String) (piece : String × String) : String :=
  text ++ "\n# User-defined config for service '" ++ piece.1 ++ "'.\n" ++ piece.2 ++ "\n"

/-- The text with the configs of some services in turn. -/
def withServices (text : String) (pieces : List (String × String)) : String :=
  pieces.foldl withService text

/-- The newest container of a service; of several, the first. -/
def newest (containers : List ServiceContainer) (service : String) : Option ServiceContainer :=
  (containers.filter fun container => container.serviceName = service).argmax
    serviceContainerCreatedTime

namespace CaddyfileGenerator

variable (self : CaddyfileGenerator) (render : Renderer) (records : List ContainerRecord)

/-- The containers in the order of the generator: those of this machine first. -/
def containers : List ServiceContainer := (self.sortRecords records).map (·.container)

/-- The config generated from ports. -/
def base : String := generateBaseFromPorts (self.containers records) self.machineId

/-- The newest `caddy` container of this machine. -/
def newestLocalCaddy : Option ServiceContainer :=
  (((self.sortRecords records).filter fun record =>
    record.machineId = self.machineId ∧ record.container.serviceName = caddyServiceName).argmax
      createdTime).map (·.container)

/-- The global config there is to place, if any. -/
def GlobalConfig (config : String) : Prop :=
  config ≠ "" ∧ ∃ container, self.newestLocalCaddy records = some container ∧
    container.serviceSpec.caddyConfig = config

/-- The config of a service there is to place, if any. -/
def ServiceConfig (service config : String) : Prop :=
  service ≠ caddyServiceName ∧ config ≠ "" ∧
    ∃ container, newest (self.containers records) service = some container ∧
      container.serviceSpec.caddyConfig = config

/-- What the template engine and the validator say of a config that is put into the text. -/
def verdict (service config : String) (assemble : String → String) : Except Failure String :=
  match render ⟨service, serviceUpstreams (self.containers records)⟩ config with
  | .error error => .error (.render error)
  | .ok rendered =>
    match self.validate (assemble rendered) with
    | .ok () => .ok rendered
    | .error error => .error (.validation error)

end CaddyfileGenerator

/-- What was accepted, as rendered, and what was skipped. -/
structure Outcome where
  global : Option String
  accepted : List (String × String)
  skipped : List Skipped

namespace Outcome

variable (outcome : Outcome) (base : String)

/-- The text before the configs of the services. -/
def front : String :=
  match outcome.global with
  | none => base
  | some rendered => withGlobal base rendered

/-- The accepted text. -/
def text : String := withServices (outcome.front base) outcome.accepted

/-- The text that was accepted before the config of a service was offered. -/
def textBefore (service : String) : String :=
  withServices (outcome.front base) (below Prod.fst service outcome.accepted)

end Outcome

section Isolated

variable (generator : CaddyfileGenerator) (render : Renderer) (records : List ContainerRecord)
  (outcome : Outcome)

/-- The global config gets a verdict, before the config generated from ports. -/
def GlobalVerdict (verdict : Except Failure String) : Prop :=
  ∃ config, generator.GlobalConfig records config ∧
    generator.verdict render records caddyServiceName config (withGlobal (generator.base records)) = verdict

/-- The config of a service gets a verdict, after the text accepted before it. -/
def ServiceVerdict (service : String) (verdict : Except Failure String) : Prop :=
  ∃ config, generator.ServiceConfig records service config ∧
    generator.verdict render records service config (fun rendered =>
      withService (outcome.textBefore (generator.base records) service) (service, rendered)) = verdict

/-- Every entry of the outcome is the verdict on its own config. -/
structure Isolated : Prop where
  global : ∀ rendered, outcome.global = some rendered ↔
    GlobalVerdict generator render records (.ok rendered)
  ascending : outcome.accepted.Pairwise fun first second => first.1 < second.1
  accepted : ∀ service rendered, (service, rendered) ∈ outcome.accepted ↔
    ServiceVerdict generator render records outcome service (.ok rendered)
  skipped : ∀ service failure, ⟨service, failure⟩ ∈ outcome.skipped ↔
    (service = caddyServiceName ∧ GlobalVerdict generator render records (.error failure)) ∨
      ServiceVerdict generator render records outcome service (.error failure)
  once : (outcome.skipped.map Skipped.service).Nodup
  valid : outcome.text (generator.base records) = generator.base records ∨
    generator.validate (outcome.text (generator.base records)) = .ok ()

end Isolated

section Newest

/-- The newest container of a service is kept. -/
theorem getElem?_keepLatest (containers : List ServiceContainer) (service : String) :
    (containers.foldl keepLatest ∅)[service]? = newest containers service := by
  induction containers using List.reverseRecOn with
  | nil => rfl
  | append_singleton front last ih =>
    rw [foldl_append, foldl_cons, foldl_nil, keepLatest]
    by_cases same : last.serviceName = service
    · have grown : newest (front ++ [last]) service =
          Option.casesOn (newest front service) (some last) fun previous =>
            if serviceContainerCreatedTime previous < serviceContainerCreatedTime last
            then some last else some previous := by
        rw [newest, filter_append, filter_singleton, decide_eq_true same, cond_true,
          argmax_concat, newest]
      rw [grown, same]
      cases found : newest front service with
      | none =>
        rw [found] at ih
        simp only [ih]
        rw [Std.ExtTreeMap.getElem?_insert_self]
      | some previous =>
        rw [found] at ih
        simp only [ih]
        by_cases older : serviceContainerCreatedTime previous < serviceContainerCreatedTime last
        · rw [if_neg (not_le_of_gt older), if_pos older, Std.ExtTreeMap.getElem?_insert_self]
        · rw [if_pos (not_lt.mp older), if_neg older, ih]
    · have kept : newest (front ++ [last]) service = newest front service := by
        rw [newest, filter_append, filter_singleton, decide_eq_false same, cond_false,
          append_nil, newest]
      rw [kept, ← ih]
      split
      · split
        · rfl
        · rw [OrdMap.getElem?_insert_eq, if_neg same]
      · rw [OrdMap.getElem?_insert_eq, if_neg same]

theorem foldl_eq_argmax (first : ContainerRecord) (rest : List ContainerRecord) :
    (first :: rest).argmax createdTime = some (rest.foldl (fun latest candidate =>
      if createdTime candidate > createdTime latest then candidate else latest) first) := by
  induction rest using List.reverseRecOn with
  | nil => rfl
  | append_singleton front last ih =>
    rw [← cons_append, argmax_concat, ih, foldl_append, foldl_cons,
      foldl_nil]
    exact (apply_ite some _ _ _).symm

theorem caddyContainer_eq (self : CaddyfileGenerator) (records : List ContainerRecord) :
    self.caddyContainer (self.sortRecords records) = self.newestLocalCaddy records := by
  unfold CaddyfileGenerator.caddyContainer CaddyfileGenerator.newestLocalCaddy
  generalize List.filter _ (self.sortRecords records) = caddy
  cases caddy with
  | nil => rfl
  | cons first rest => rw [foldl_eq_argmax, Option.map_some]

theorem serviceName_of_newestLocalCaddy {self : CaddyfileGenerator}
    {records : List ContainerRecord} {container : ServiceContainer}
    (found : self.newestLocalCaddy records = some container) :
    container.serviceName = caddyServiceName := by
  have ⟨record, chosen, same⟩ := Option.map_eq_some_iff.mp found
  have member := argmax_mem chosen
  have passed := of_decide_eq_true (mem_filter.mp member).2
  rw [← same]
  exact passed.2

end Newest

section Draft

variable (self : CaddyfileGenerator) (render : Renderer) (records : List ContainerRecord)

/-- A draft after the verdict on a config. -/
def Draft.settle (draft : Draft) (service : String) (assemble : String → String) :
    Except Failure String → Draft
  | .ok rendered => { draft with caddyfile := assemble rendered }
  | .error failure =>
    { draft with configErrors := draft.configErrors ++ [Skipped.note ⟨service, failure⟩] }

theorem offer_eq_settle (draft : Draft) (service config : String) (assemble : String → String) :
    self.offer draft service
        (render ⟨service, serviceUpstreams (self.containers records)⟩ config) assemble =
      draft.settle service assemble (self.verdict render records service config assemble) := by
  unfold CaddyfileGenerator.offer CaddyfileGenerator.verdict
  cases render ⟨service, serviceUpstreams (self.containers records)⟩ config with
  | error error => simp only [Draft.settle, Skipped.note, String.append_assoc]
  | ok rendered =>
    cases checked : self.validate (assemble rendered) with
    | ok => simp only [checked, Draft.settle]
    | error error => simp only [checked, Draft.settle, Skipped.note, String.append_assoc]

/-- The judge of the configs of the services: the pieces are put after a front text. -/
def judge (front : String) (pieces : List (String × String)) (item : String × String) :
    Except Failure (String × String) :=
  (self.verdict render records item.1 item.2 fun rendered =>
    withService (withServices front pieces) (item.1, rendered)).map fun rendered =>
      (item.1, rendered)

/-- The configs to offer, from the entries of `latest`. -/
def customConfigs (entries : List (String × ServiceContainer)) : List (String × String) :=
  entries.filterMap fun (service, container) =>
    if service = caddyServiceName ∨ container.serviceSpec.caddyConfig = "" then none
    else some (service, container.serviceSpec.caddyConfig)

/-- The notes on the configs that were refused. -/
def notes (refused : List ((String × String) × Failure)) : List String :=
  refused.map fun (item, failure) => Skipped.note ⟨item.1, failure⟩

/-- The loop over the services admits their configs in turn. -/
theorem foldl_addService (front : String) (entries : List (String × ServiceContainer))
    (pieces : List (String × String)) (errors : List String) :
    entries.foldl (self.addService render (serviceUpstreams (self.containers records)))
        ⟨withServices front pieces, errors⟩ =
      ⟨withServices front (admitted (judge self render records front) pieces
          (customConfigs entries)),
        errors ++ notes (refused (judge self render records front) pieces
          (customConfigs entries))⟩ := by
  induction entries generalizing pieces errors with
  | nil => simp [customConfigs, admitted, refused, notes]
  | cons entry rest ih =>
    obtain ⟨service, container⟩ := entry
    rw [foldl_cons, CaddyfileGenerator.addService]
    by_cases skip : service = caddyServiceName ∨ container.serviceSpec.caddyConfig = ""
    · rw [if_pos skip, ih]
      simp only [customConfigs, filterMap_cons, if_pos skip]
    · have configs : customConfigs ((service, container) :: rest) =
          (service, container.serviceSpec.caddyConfig) :: customConfigs rest := by
        simp only [customConfigs, filterMap_cons, if_neg skip]
      have offered := offer_eq_settle self render records ⟨withServices front pieces, errors⟩
        service container.serviceSpec.caddyConfig fun rendered =>
          withService (withServices front pieces) (service, rendered)
      rw [if_neg skip, configs]
      refine (congrArg (List.foldl _ · rest) offered).trans ?_
      cases said : self.verdict render records service container.serviceSpec.caddyConfig
          fun rendered => withService (withServices front pieces) (service, rendered) with
      | error failure =>
        simp only [Draft.settle, ih, admitted, refused, judge, said, Except.map, notes,
          map_cons, append_assoc, singleton_append]
      | ok rendered =>
        have grown : withService (withServices front pieces) (service, rendered) =
            withServices front (pieces ++ [(service, rendered)]) := by
          simp only [withServices, foldl_append, foldl_cons, foldl_nil]
        simp only [Draft.settle, grown, ih, admitted, refused, judge, said, Except.map]

theorem addGlobal_eq (draft : Draft) (container : ServiceContainer)
    (name : container.serviceName = caddyServiceName) :
    self.addGlobal render (serviceUpstreams (self.containers records)) draft (some container) =
      if container.serviceSpec.caddyConfig = "" then draft
      else draft.settle caddyServiceName (withGlobal draft.caddyfile)
        (self.verdict render records caddyServiceName container.serviceSpec.caddyConfig
          (withGlobal draft.caddyfile)) := by
  rw [← offer_eq_settle, CaddyfileGenerator.addGlobal, name]
  rfl

end Draft

section Outcome

variable (self : CaddyfileGenerator) (render : Renderer) (records : List ContainerRecord)

/-- The verdict on the global config, if there is one to place. -/
def globalVerdict : Option (Except Failure String) :=
  (self.newestLocalCaddy records).bind fun container =>
    if container.serviceSpec.caddyConfig = "" then none
    else some (self.verdict render records caddyServiceName container.serviceSpec.caddyConfig
      (withGlobal (self.base records)))

theorem globalVerdict_eq_some {verdict : Except Failure String} :
    globalVerdict self render records = some verdict ↔
      GlobalVerdict self render records verdict := by
  unfold globalVerdict GlobalVerdict CaddyfileGenerator.GlobalConfig
  cases found : self.newestLocalCaddy records with
  | none => simp
  | some container => by_cases empty : container.serviceSpec.caddyConfig = "" <;> simp [empty]

/-- The entries of `latest`, by name. -/
def latestEntries : List (String × ServiceContainer) :=
  ((self.containers records).foldl keepLatest ∅).toList

variable {service config : String}

theorem mem_customConfigs :
    (service, config) ∈ customConfigs (latestEntries self records) ↔
      self.ServiceConfig records service config := by
  have entry : ∀ container, (service, container) ∈ latestEntries self records ↔
      newest (self.containers records) service = some container := by
    intro container
    rw [latestEntries, OrdMap.mem_toList, getElem?_keepLatest]
  unfold CaddyfileGenerator.ServiceConfig
  simp only [customConfigs, mem_filterMap, Prod.exists, ← entry]
  constructor
  · intro ⟨name, container, member, kept⟩
    split at kept
    · exact nomatch kept
    · rename_i real
      have same := Option.some.inj kept
      cases same
      exact ⟨fun caddy => real (.inl caddy), fun empty => real (.inr empty), container, member, rfl⟩
  · intro ⟨custom, full, container, member, same⟩
    refine ⟨service, container, member, ?_⟩
    rw [same, if_neg (not_or.mpr ⟨custom, full⟩)]

theorem ascending_customConfigs :
    (customConfigs (latestEntries self records)).Pairwise fun first second =>
      first.1 < second.1 := by
  apply List.Pairwise.filterMap _ _ Std.ExtTreeMap.ordered_keys_toList
  intro first second below piece kept other also
  have names : ∀ entry : String × ServiceContainer, ∀ item : String × String,
      item ∈ (if entry.1 = caddyServiceName ∨ entry.2.serviceSpec.caddyConfig = "" then none
        else some (entry.1, entry.2.serviceSpec.caddyConfig)) → item.1 = entry.1 := by
    intro entry item made
    split at made
    · exact nomatch made
    · rw [← Option.some.inj made]
  rw [names first piece kept, names second other also]
  exact compare_lt_iff_lt.mp below

/-- The note on the global config, if it is skipped. -/
def globalSkipped : List Skipped :=
  match globalVerdict self render records with
  | some (.error failure) => [⟨caddyServiceName, failure⟩]
  | _ => []

theorem mem_globalSkipped {skipped : Skipped} :
    skipped ∈ globalSkipped self render records ↔ skipped.service = caddyServiceName ∧
      globalVerdict self render records = some (.error skipped.failure) := by
  unfold globalSkipped
  split
  · rename_i failure offered
    rw [offered, mem_singleton]
    constructor
    · intro same
      rw [same]
      exact ⟨rfl, rfl⟩
    · intro ⟨service, said⟩
      have same := Except.error.inj (Option.some.inj said)
      cases skipped
      simp_all
  · rename_i other
    constructor
    · intro member
      exact nomatch member
    · intro ⟨_, said⟩
      exact absurd said (other skipped.failure)

/-- What `generate` accepts and skips. -/
def outcomeOf : Outcome :=
  let global := (globalVerdict self render records).bind Except.toOption
  let front := Outcome.front ⟨global, [], []⟩ (self.base records)
  let configs := customConfigs (latestEntries self records)
  ⟨global, admitted (judge self render records front) [] configs,
    globalSkipped self render records ++
    (refused (judge self render records front) [] configs).map fun (item, failure) =>
      ⟨item.1, failure⟩⟩

theorem addGlobal_outcome :
    self.addGlobal render (serviceUpstreams (self.containers records)) ⟨self.base records, []⟩
        (self.caddyContainer (self.sortRecords records)) =
      ⟨(outcomeOf self render records).front (self.base records),
        (globalSkipped self render records).map Skipped.note⟩ := by
  unfold outcomeOf globalSkipped
  rw [caddyContainer_eq, globalVerdict]
  cases found : self.newestLocalCaddy records with
  | none => rfl
  | some container =>
    rw [addGlobal_eq self render records _ _ (serviceName_of_newestLocalCaddy found),
      Option.bind_some]
    by_cases empty : container.serviceSpec.caddyConfig = ""
    · simp only [if_pos empty, Option.bind_none, Outcome.front, map_nil]
    · simp only [if_neg empty, Option.bind_some]
      cases self.verdict render records caddyServiceName container.serviceSpec.caddyConfig
        (withGlobal (self.base records)) with
      | ok rendered => rfl
      | error failure => rfl

theorem generate_eq (now : Int) :
    self.generate render now records true = .ok (self.header now ++ "\n" ++
      ((outcomeOf self render records).text (self.base records) ++
        CaddyfileGenerator.errorSection ((outcomeOf self render records).skipped.map
          Skipped.note))) := by
  have draft : (latestEntries self records).foldl
      (self.addService render (serviceUpstreams (self.containers records)))
      (self.addGlobal render (serviceUpstreams (self.containers records))
        ⟨self.base records, []⟩ (self.caddyContainer (self.sortRecords records))) =
      ⟨(outcomeOf self render records).text (self.base records),
        (outcomeOf self render records).skipped.map Skipped.note⟩ := by
    rw [addGlobal_outcome]
    refine (foldl_addService self render records _ _ [] _).trans ?_
    apply congrArg (Draft.mk _)
    simp only [outcomeOf, map_append, map_map]
    rfl
  have listed : (self.sortRecords records).map (·.container) = self.containers records := rfl
  have started : generateBaseFromPorts (self.containers records) self.machineId =
    self.base records := rfl
  have entries : ((self.containers records).foldl keepLatest ∅).toList =
    latestEntries self records := rfl
  simp only [CaddyfileGenerator.generate, Bool.not_true, Bool.false_eq_true, ↓reduceIte, listed,
    started, entries, draft]

variable {front : String} {pieces : List (String × String)} {item : String × String}

theorem judge_eq_ok {piece : String × String} :
    judge self render records front pieces item = .ok piece ↔ piece.1 = item.1 ∧
      self.verdict render records item.1 item.2
        (fun rendered => withService (withServices front pieces) (item.1, rendered)) =
          .ok piece.2 := by
  unfold judge
  cases self.verdict render records item.1 item.2
      (fun rendered => withService (withServices front pieces) (item.1, rendered)) with
  | error failure => simp [Except.map]
  | ok rendered => simp [Except.map, Prod.ext_iff, eq_comm]

theorem judge_eq_error {failure : Failure} :
    judge self render records front pieces item = .error failure ↔
      self.verdict render records item.1 item.2
        (fun rendered => withService (withServices front pieces) (item.1, rendered)) =
          .error failure := by
  unfold judge
  cases self.verdict render records item.1 item.2
      (fun rendered => withService (withServices front pieces) (item.1, rendered)) with
  | error other => simp [Except.map]
  | ok rendered => simp [Except.map]

theorem validate_of_verdict {rendered : String} {assemble : String → String}
    (accepted : self.verdict render records service config assemble = .ok rendered) :
    self.validate (assemble rendered) = .ok () := by
  unfold CaddyfileGenerator.verdict at accepted
  split at accepted
  · exact nomatch accepted
  · split at accepted
    · rename_i checked
      rw [← Except.ok.inj accepted]
      exact checked
    · exact nomatch accepted

/-- The judge of the services of a run. -/
abbrev judgeOf : List (String × String) → String × String → Except Failure (String × String) :=
  judge self render records ((outcomeOf self render records).front (self.base records))

theorem judgeOf_keeps (pieces : List (String × String)) (item piece : String × String)
    (accepted : judgeOf self render records pieces item = .ok piece) : piece.1 = item.1 :=
  ((judge_eq_ok self render records).mp accepted).1

/-- A text is the base config or was accepted by the validator. -/
def Sound (text : String) : Prop := text = self.base records ∨ self.validate text = .ok ()

theorem sound_front : Sound self records
    ((outcomeOf self render records).front (self.base records)) := by
  show Sound self records (Outcome.front ⟨(globalVerdict self render records).bind
    Except.toOption, [], []⟩ (self.base records))
  cases offered : globalVerdict self render records with
  | none => exact .inl rfl
  | some verdict =>
    cases verdict with
    | error failure => exact .inl rfl
    | ok rendered =>
      have ⟨config, _, said⟩ := (globalVerdict_eq_some self render records).mp offered
      have checked := validate_of_verdict self render records said
      exact .inr checked

theorem sound_text : Sound self records
    ((outcomeOf self render records).text (self.base records)) := by
  have step : ∀ pieces item piece, judgeOf self render records pieces item = .ok piece →
      Sound self records (withServices
        ((outcomeOf self render records).front (self.base records)) pieces) →
      Sound self records (withServices
        ((outcomeOf self render records).front (self.base records)) (pieces ++ [piece])) := by
    intro pieces item piece accepted _
    have ⟨same, said⟩ := (judge_eq_ok self render records).mp accepted
    have checked := validate_of_verdict self render records said
    rw [← same] at checked
    right
    rw [withServices, foldl_append, foldl_cons, foldl_nil]
    exact checked
  have start : Sound self records (withServices
      ((outcomeOf self render records).front (self.base records)) []) :=
    sound_front self render records
  exact admitted_invariant step start _

theorem nodup_skipped : ((outcomeOf self render records).skipped.map Skipped.service).Nodup := by
  have global : ((globalSkipped self render records).map Skipped.service).Nodup := by
    unfold globalSkipped
    split
    · exact nodup_singleton _
    · exact nodup_nil
  have names : ((customConfigs (latestEntries self records)).map Prod.fst).Nodup := by
    apply (pairwise_map.mpr (ascending_customConfigs self records)).imp
    intro first second below
    exact ne_of_lt below
  have offered : (((refused (judgeOf self render records) []
      (customConfigs (latestEntries self records))).map Prod.fst).map Prod.fst).Sublist
      ((customConfigs (latestEntries self records)).map Prod.fst) :=
    (sublist_refused [] _).map Prod.fst
  have split : (outcomeOf self render records).skipped.map Skipped.service =
      (globalSkipped self render records).map Skipped.service ++
        ((refused (judgeOf self render records) []
          (customConfigs (latestEntries self records))).map Prod.fst).map Prod.fst := by
    simp only [outcomeOf, map_append, map_map]
    rfl
  rw [split, nodup_append]
  refine ⟨global, offered.nodup names, ?_⟩
  -- the global config belongs to the one service whose config is never offered as a site
  intro caddy first service second same
  have ⟨skipped, noted, name⟩ := mem_map.mp first
  have ⟨item, custom, other⟩ := mem_map.mp (offered.mem second)
  have real := (mem_customConfigs self records).mp custom
  apply real.1
  rw [other, ← same, ← name]
  exact ((mem_globalSkipped self render records).mp noted).1

/-- The outcome of `generate` judges every config on its own. -/
theorem isolated_outcomeOf : Isolated self render records (outcomeOf self render records) := by
  have ascending := ascending_customConfigs self records
  have under : Under Prod.fst Prod.fst ([] : List (String × String))
      (customConfigs (latestEntries self records)) := by
    intro piece member
    exact nomatch member
  have keeps := judgeOf_keeps self render records
  constructor
  case global =>
    intro rendered
    rw [← globalVerdict_eq_some]
    show (globalVerdict self render records).bind Except.toOption = some rendered ↔ _
    cases globalVerdict self render records with
    | none => simp
    | some verdict => cases verdict <;> simp [Except.toOption]
  case ascending => exact pairwise_admitted keeps ascending List.Pairwise.nil under
  case accepted =>
    intro service rendered
    refine (mem_admitted keeps ascending under).trans ?_
    simp only [not_mem_nil, false_or, Prod.exists, judge_eq_ok, mem_customConfigs]
    constructor
    · intro ⟨name, config, offered, same, said⟩
      cases same
      exact ⟨config, offered, said⟩
    · intro ⟨config, offered, said⟩
      exact ⟨service, config, offered, rfl, said⟩
  case skipped =>
    intro service failure
    refine mem_append.trans (or_congr ?_ ?_)
    · rw [mem_globalSkipped, globalVerdict_eq_some]
    · simp only [mem_map, Prod.exists, Skipped.mk.injEq]
      constructor
      · intro ⟨name, config, reason, member, sameName, sameReason⟩
        cases sameName
        cases sameReason
        have ⟨offered, said⟩ := (mem_refused keeps ascending under).mp member
        exact ⟨config, (mem_customConfigs self records).mp offered,
          (judge_eq_error self render records).mp said⟩
      · intro ⟨config, offered, said⟩
        refine ⟨service, config, failure, (mem_refused keeps ascending under).mpr ?_, rfl, rfl⟩
        exact ⟨(mem_customConfigs self records).mpr offered,
          (judge_eq_error self render records).mpr said⟩
  case once => exact nodup_skipped self render records
  case valid => exact sound_text self render records

end Outcome

end Ployz.Caddy
