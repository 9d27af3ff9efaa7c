import Ployz.Verif.Fingerprint

/-!
# Skipping a reload

The controller remembers the fingerprint of the containers of the last Caddyfile it loaded and
forgets it when a load fails. An empty fingerprint also stands for no load at all, and a restart
makes Caddy run the file on disk, which may be older, or written without the configs of the services
while Caddy was away. Where neither can happen, a call is skipped only while Caddy runs a config of
the containers at hand.
-/

namespace Ployz.Caddy

/-- Caddy runs a config that was generated, with the configs of the services, from containers
with the fingerprint of the given ones. -/
def Current (machineId machineName : String) (containers : List ContainerRecord)
    (running : Option String) : Prop :=
  ∃ source render validate now text, running = some text ∧
    CaddyfileGenerator.generate ⟨machineId, machineName, some validate⟩ render now source true =
      .ok text ∧
    fingerprintsEqual (fingerprintContainers source) (fingerprintContainers containers) = true

namespace System

/-- A new controller, whatever is on disk and whatever Caddy runs. -/
def start (machineId configDir machineName : String) (disk running : Option String) : System :=
  ⟨.new machineId configDir machineName, disk, running, false⟩

/-- While no load stands, Caddy is not asked about an empty set of containers; and it restarts
only while no load stands or when the file on disk is what it runs. -/
def Allowed : System × Event → Prop
  | (self, .call environment containers) =>
    environment.client.available = true → containers = [] → self.loaded = true
  | (self, .restart) => self.loaded = true → self.disk = self.running

/-- What the cached fingerprint stands for. -/
structure Cached (machineId machineName : String) (system : System) : Prop where
  machine : system.controller.machineId = machineId
  generator : system.controller.generator = some machineName
  loaded : system.loaded = true → ∃ source render validate now text, system.running = some text ∧
    CaddyfileGenerator.generate ⟨machineId, machineName, some validate⟩ render now source true =
      .ok text ∧
    system.controller.lastFingerprint = fingerprintContainers source
  unloaded : system.loaded = false → system.controller.lastFingerprint = []

section Write

variable (controller : Controller) (disk : Option String) (outcome : WriteOutcome)
  (caddyfile : String)

theorem writeCaddyfileIfChanged_keeps :
    let after := (controller.writeCaddyfileIfChanged disk outcome caddyfile).2.1
    after.machineId = controller.machineId ∧ after.generator = controller.generator ∧
      after.lastFingerprint = controller.lastFingerprint := by
  unfold Controller.writeCaddyfileIfChanged
  split
  · exact ⟨rfl, rfl, rfl⟩
  · cases outcome <;> exact ⟨rfl, rfl, rfl⟩

end Write

theorem eq_nil_of_fingerprints {containers : List ContainerRecord}
    (equal : fingerprintsEqual [] (fingerprintContainers containers) = true) : containers = [] := by
  have none : fingerprintContainers containers = [] := by
    cases marks : fingerprintContainers containers with
    | nil => rfl
    | cons first rest =>
      rw [marks] at equal
      exact nomatch equal
  have length := congrArg List.length none
  simpa [fingerprintContainers, List.length_insertionSort] using length

variable {machineId machineName : String} {self : System}
  (cached : Cached machineId machineName self)

include cached

/-- A call that is skipped finds Caddy with a config of its containers. -/
theorem Cached.current {containers : List ContainerRecord}
    (equal : fingerprintsEqual self.controller.lastFingerprint
      (fingerprintContainers containers) = true) (nonempty : containers = [] → self.loaded = true) :
    Current machineId machineName containers self.running := by
  cases stands : self.loaded with
  | true =>
    have ⟨source, render, validate, now, text, runs, made, mark⟩ := cached.loaded stands
    rw [mark] at equal
    exact ⟨source, render, validate, now, text, runs, made, equal⟩
  | false =>
    rw [cached.unloaded stands] at equal
    have loaded := nonempty (eq_nil_of_fingerprints equal)
    rw [stands] at loaded
    exact nomatch loaded

/-- A step that leaves Caddy and the cache alone keeps what the cache stands for. -/
theorem Cached.of_same {after : System}
    (machine : after.controller.machineId = self.controller.machineId)
    (generator : after.controller.generator = self.controller.generator)
    (mark : after.controller.lastFingerprint = self.controller.lastFingerprint)
    (loaded : after.loaded = self.loaded)
    (running : self.loaded = true → after.running = self.running) :
    Cached machineId machineName after where
  machine := machine.trans cached.machine
  generator := generator.trans cached.generator
  loaded stands := by
    rw [loaded] at stands
    rw [running stands, mark]
    exact cached.loaded stands
  unloaded fails := by
    rw [loaded] at fails
    rw [mark]
    exact cached.unloaded fails

/-- A call keeps what the cache stands for, and is skipped only in front of a current config. -/
theorem Cached.call (environment : Environment) (containers : List ContainerRecord)
    (nonempty : environment.client.available = true → containers = [] → self.loaded = true) :
    Cached machineId machineName (self.generateAndLoadCaddyfile environment containers).2 ∧
      ∀ seen running,
        (self.generateAndLoadCaddyfile environment containers).1 = .skipped seen running →
          Current machineId machineName seen running := by
  unfold generateAndLoadCaddyfile
  by_cases skip : (environment.client.available && fingerprintsEqual
      self.controller.lastFingerprint (fingerprintContainers containers)) = true
  · have ⟨available, equal⟩ := Bool.and_eq_true_iff.mp skip
    simp only [if_pos skip]
    refine ⟨cached, fun seen running answer => ?_⟩
    have ⟨same, runs⟩ := Answer.skipped.inj answer
    rw [← same, ← runs]
    exact cached.current equal (nonempty available)
  · simp only [if_neg skip, cached.generator, cached.machine]
    cases made : CaddyfileGenerator.generate
        ⟨machineId, machineName, some environment.client.validate⟩ environment.render
        environment.now containers environment.client.available with
    | error error => exact ⟨cached, fun seen running answer => nomatch answer⟩
    | ok caddyfile =>
      cases available : environment.client.available with
      | false =>
        have ⟨machine, generator, mark⟩ := writeCaddyfileIfChanged_keeps self.controller self.disk
          environment.write caddyfile
        exact ⟨cached.of_same machine generator mark rfl fun _ => rfl,
          fun seen running answer => nomatch answer⟩
      | true =>
        rw [available] at made
        cases environment.client.load with
        | error error =>
          exact ⟨⟨rfl, rfl, (nomatch ·), fun _ => rfl⟩, fun seen running answer => nomatch answer⟩
        | ok =>
          have ⟨machine, generator, mark⟩ := writeCaddyfileIfChanged_keeps
            ⟨machineId, self.controller.caddyfilePath, some machineName,
              fingerprintContainers containers, self.controller.lastCaddyfile⟩ self.disk
            environment.write caddyfile
          refine ⟨⟨machine, generator, fun _ => ?_, (nomatch ·)⟩,
            fun seen running answer => nomatch answer⟩
          exact ⟨containers, environment.render, environment.client.validate, environment.now,
            caddyfile, rfl, made, mark⟩

/-- Every event keeps what the cache stands for. -/
theorem Cached.step (event : Event) (allowed : Allowed (self, event)) :
    Cached machineId machineName (self.step event).2 ∧
      ∀ seen running, (self.step event).1 = .skipped seen running →
        Current machineId machineName seen running := by
  cases event with
  | call environment containers => exact cached.call environment containers allowed
  | restart =>
    exact ⟨cached.of_same rfl rfl rfl rfl allowed, fun seen running answer => nomatch answer⟩

end System

variable {events : List System.Event}

/-- In every run whose events are allowed, a call is skipped only while Caddy runs a config of
containers with the same fingerprint. -/
theorem skipped_reload_current (machineId configDir machineName : String)
    (disk running : Option String) {events : List System.Event}
    (allowed : ∀ visit ∈ visits System.step
      (.start machineId configDir machineName disk running) events, System.Allowed visit) :
    ∀ answer ∈ (run System.step (.start machineId configDir machineName disk running) events).1,
      ∀ seen running', answer = .skipped seen running' →
        Current machineId machineName seen running' := by
  have start : System.Cached machineId machineName
      (.start machineId configDir machineName disk running) :=
    ⟨rfl, rfl, (nomatch ·), fun _ => rfl⟩
  have keeps : ∀ system event, System.Cached machineId machineName system →
      System.Allowed (system, event) →
      System.Cached machineId machineName (system.step event).2 ∧
        ∀ seen running', (system.step event).1 = .skipped seen running' →
          Current machineId machineName seen running' := by
    intro system event cached allowed
    exact cached.step event allowed
  exact (run_invariant keeps start allowed).2

theorem head_of_generate {generator : CaddyfileGenerator} {render : Renderer} {now : Int}
    {records : List ContainerRecord} {text : String}
    (made : generator.generate render now records true = .ok text) :
    text.toList.head? = some '#' := by
  have start : ∀ first second third fourth fifth sixth seventh rest : String,
      first.toList.head? = some '#' →
      (first ++ second ++ third ++ fourth ++ fifth ++ sixth ++ seventh ++ "\n" ++
        rest).toList.head? = some '#' := by
    intro first second third fourth fifth sixth seventh rest opened
    simp [opened]
  rw [generate_eq] at made
  rw [← Except.ok.inj made]
  exact start _ _ _ _ _ _ _ _ (by decide +kernel)

theorem allowed_of_calls (calls : ∀ event ∈ events, ∃ environment containers,
      event = .call environment containers ∧ containers ≠ []) (system : System) :
    ∀ visit ∈ visits System.step system events, System.Allowed visit := by
  induction events generalizing system with
  | nil => exact fun visit member => nomatch member
  | cons event rest ih =>
    have ⟨first, later⟩ := List.forall_mem_cons.mp calls
    have ⟨environment, containers, same, nonempty⟩ := first
    refine List.forall_mem_cons.mpr ⟨?_, ih later _⟩
    rw [same]
    intro _ empty
    exact absurd empty nonempty

namespace Sample

/-- A Caddy that is there and takes every config. -/
def willing : Environment where
  client := { available := true, validate := fun _ => .ok (), load := .ok () }
  render := plain
  now := 0
  write := .written

/-- The containers change and a change is reported twice. -/
def repeated : List System.Event := [.call willing [early], .call willing [early]]

end Sample

open Sample

section Repeat

variable {system : System} {environment : Environment} {containers : List ContainerRecord}

theorem lastFingerprint_of_load {machineName : String}
    (generator : system.controller.generator = some machineName)
    (fresh : fingerprintsEqual system.controller.lastFingerprint
      (fingerprintContainers containers) = false)
    (available : environment.client.available = true) (load : environment.client.load = .ok ()) :
    (system.step (.call environment containers)).2.controller.lastFingerprint =
      fingerprintContainers containers := by
  have made : ∃ text, CaddyfileGenerator.generate
      ⟨system.controller.machineId, machineName, some environment.client.validate⟩
      environment.render environment.now containers true = .ok text := ⟨_, generate_eq _ _ _ _⟩
  have ⟨caddyfile, generated⟩ := made
  rw [System.step, System.generateAndLoadCaddyfile]
  simp only [generator, fresh, available, load, generated, Bool.and_false, Bool.false_eq_true,
    if_false, Bool.not_true]
  exact (System.writeCaddyfileIfChanged_keeps _ system.disk environment.write caddyfile).2.2

theorem skipped_mem_run (events : List System.Event)
    (available : environment.client.available = true)
    (cached : fingerprintsEqual system.controller.lastFingerprint
      (fingerprintContainers containers) = true) :
    Answer.skipped containers system.running ∈
      (run System.step system (.call environment containers :: events)).1 := by
  have skipped : (system.step (.call environment containers)).1 =
      .skipped containers system.running := by
    rw [System.step, System.generateAndLoadCaddyfile]
    simp only [available, cached, Bool.and_true, if_true]
  rw [run_cons, skipped]
  exact List.mem_cons_self

theorem skipped_of_repeat {machineName : String}
    (generator : system.controller.generator = some machineName)
    (fresh : fingerprintsEqual system.controller.lastFingerprint
      (fingerprintContainers containers) = false)
    (available : environment.client.available = true) (load : environment.client.load = .ok ())
    (same : fingerprintsEqual (fingerprintContainers containers)
      (fingerprintContainers containers) = true) :
    ∃ running, Answer.skipped containers running ∈ (run System.step system
      [.call environment containers, .call environment containers]).1 := by
  have left := lastFingerprint_of_load generator fresh available load
  rw [run_cons]
  exact ⟨_, List.mem_cons_of_mem _ (skipped_mem_run [] available (left ▸ same))⟩

end Repeat

/-- The second call is skipped, and Caddy runs what the first one loaded. -/
theorem skipped_reload_current_sample :
    ∃ running, Answer.skipped [early] running ∈
        (run System.step (.start "m1" "/caddy" "one" none none) repeated).1 ∧
      Current "m1" "one" [early] running := by
  have skips : ∃ running, Answer.skipped [early] running ∈
      (run System.step (.start "m1" "/caddy" "one" none none) repeated).1 :=
    skipped_of_repeat rfl (by decide +kernel) rfl rfl (by decide +kernel)
  have ⟨running, member⟩ := skips
  refine ⟨running, member, ?_⟩
  have allowed : ∀ visit ∈ visits System.step (.start "m1" "/caddy" "one" none none)
      repeated, System.Allowed visit := by
    apply allowed_of_calls
    intro event called
    simp only [repeated, List.mem_cons, List.not_mem_nil, or_false, or_self] at called
    exact ⟨_, _, called, List.cons_ne_nil _ _⟩
  exact skipped_reload_current "m1" "/caddy" "one" none none allowed _ member _ _ rfl

/-- A controller that finds no containers at its start leaves Caddy with what it runs. -/
theorem skipped_reload_stale :
    Answer.skipped [] (some "stale") ∈ (run System.step
        (.start "m1" "/caddy" "one" none (some "stale")) [.call willing []]).1 ∧
      ¬Current "m1" "one" [] (some "stale") := by
  constructor
  · exact List.mem_singleton.mpr rfl
  · intro ⟨source, render, validate, now, text, runs, made, _⟩
    have first := head_of_generate made
    rw [← Option.some.inj runs] at first
    exact absurd first (by decide)

end Ployz.Caddy
