import Ployz.Caddy.Controller

/-!
# The Caddyfile on disk

The controller does not write a Caddyfile whose body is that of the last one it recorded. It
records a Caddyfile only when both the write and the change of its owner succeed, so that a call
that fails may leave another body on disk than the one recorded; a call with the recorded body
then returns without writing it.
-/

namespace Ployz.Caddy

/-- A call: the Caddyfile, and what comes of writing it if it is written. -/
structure Write where
  caddyfile : String
  outcome : WriteOutcome

/-- The controller and the file on disk. -/
structure Held where
  controller : Controller
  disk : Option String

namespace Held

variable (self : Held) (write : Write)

/-- `Controller::write_caddyfile_if_changed`. -/
def save : Except String Unit × Held :=
  let (written, controller, disk) :=
    self.controller.writeCaddyfileIfChanged self.disk write.outcome write.caddyfile
  (written, ⟨controller, disk⟩)

/-- The body of the file on disk. -/
def body : Option String := self.disk.map caddyfileBody

/-- The body of the last Caddyfile that the controller recorded. -/
def recorded : String := caddyfileBody self.controller.lastCaddyfile

end Held

/-- A call that returns without an error leaves its body on disk. -/
def Truthful : Held × Write → Prop
  | (held, write) =>
    (held.save write).1 = .ok () → (held.save write).2.body = some (caddyfileBody write.caddyfile)

/-- A call with the recorded body finds it on disk. -/
def Fresh : Held × Write → Prop
  | (held, write) =>
    caddyfileBody write.caddyfile = held.recorded →
      held.body = some (caddyfileBody write.caddyfile)

/-- A call with a body. A write that is made, and that fails or whose change of the owner fails,
leaves the body that was on disk. -/
def Careful : Held × Write → Prop
  | (held, write) =>
    caddyfileBody write.caddyfile ≠ "" ∧
      (caddyfileBody write.caddyfile ≠ held.recorded →
        match write.outcome with
        | .written => True
        | .groupFailed _ => some (caddyfileBody write.caddyfile) = held.body
        | .failed _ left => left.map caddyfileBody = held.body)

section Step

variable {held : Held} {write : Write}

/-- What a call does: nothing for the recorded body; otherwise it records the Caddyfile or fails
with what is recorded kept. -/
theorem save_cases (held : Held) (write : Write) :
    caddyfileBody write.caddyfile = held.recorded ∧ held.save write = (.ok (), held) ∨
      caddyfileBody write.caddyfile ≠ held.recorded ∧
        ((held.save write).1 = .ok () ∧ (held.save write).2.disk = some write.caddyfile ∧
            (held.save write).2.controller.lastCaddyfile = write.caddyfile ∨
          (held.save write).1 ≠ .ok () ∧ (held.save write).2.controller = held.controller ∧
            (Careful (held, write) → (held.save write).2.body = held.body)) := by
  obtain ⟨caddyfile, outcome⟩ := write
  unfold Held.save Controller.writeCaddyfileIfChanged Held.recorded
  by_cases same : caddyfileBody caddyfile = caddyfileBody held.controller.lastCaddyfile
  · rw [if_pos same]
    exact .inl ⟨same, rfl⟩
  · rw [if_neg same]
    refine .inr ⟨same, ?_⟩
    cases outcome with
    | written => exact .inl ⟨rfl, rfl, rfl⟩
    | groupFailed | failed => exact .inr ⟨nofun, rfl, fun careful => careful.2 same⟩

/-- A call tells the truth exactly when it is not skipped for a body that is gone from disk. -/
theorem truthful_iff_fresh (visit : Held × Write) : Truthful visit ↔ Fresh visit := by
  have ⟨held, write⟩ := visit
  show ((held.save write).1 = .ok () → _) ↔ (caddyfileBody write.caddyfile = held.recorded → _)
  rcases save_cases held write with
    ⟨same, skipped⟩ | ⟨other, ⟨_, disk, _⟩ | ⟨failed, _⟩⟩
  · rw [skipped]
    exact ⟨fun truth _ => truth rfl, fun fresh _ => fresh same⟩
  · have left : (held.save write).2.body = some (caddyfileBody write.caddyfile) := by
      rw [Held.body, disk]
      rfl
    exact ⟨fun _ equal => absurd equal other, fun _ _ => left⟩
  · exact ⟨fun _ equal => absurd equal other, fun _ returned => absurd returned failed⟩

/-- Once a body is recorded, it is on disk. -/
def Synced (held : Held) : Prop := held.recorded ≠ "" → held.body = some held.recorded

theorem Synced.save (synced : Synced held) (careful : Careful (held, write)) :
    Synced (held.save write).2 := by
  rcases save_cases held write with
    ⟨_, skipped⟩ | ⟨_, ⟨_, disk, recorded⟩ | ⟨_, kept, body⟩⟩
  · rw [skipped]
    exact synced
  · intro _
    rw [Held.body, Held.recorded, disk, recorded]
    rfl
  · have same : (held.save write).2.recorded = held.recorded := by rw [Held.recorded, kept]; rfl
    rw [Synced, same, body careful]
    exact synced

theorem Synced.fresh (synced : Synced held) (careful : Careful (held, write)) :
    Fresh (held, write) := by
  intro same
  rw [same]
  exact synced (same ▸ careful.1)

end Step

/-- The calls of a run tell the truth exactly when none of them is skipped for a body that is
gone from disk. This is so when every call has a body and every call that fails keeps the body
on disk. -/
theorem write_if_changed_truthful_iff (machineId configDir machineName : String)
    (disk : Option String) (writes : List Write) :
    ((∀ visit ∈ visits Held.save ⟨.new machineId configDir machineName, disk⟩ writes,
        Truthful visit) ↔
      ∀ visit ∈ visits Held.save ⟨.new machineId configDir machineName, disk⟩ writes,
        Fresh visit) ∧
    ((∀ visit ∈ visits Held.save ⟨.new machineId configDir machineName, disk⟩ writes,
        Careful visit) →
      ∀ visit ∈ visits Held.save ⟨.new machineId configDir machineName, disk⟩ writes,
        Truthful visit) := by
  refine ⟨forall₂_congr fun visit _ => truthful_iff_fresh visit, fun careful visit member => ?_⟩
  have start : Synced ⟨.new machineId configDir machineName, disk⟩ := fun filled => absurd rfl filled
  have synced := holds_of_mem_visits (fun held write => Synced.save) start careful visit member
  exact (truthful_iff_fresh visit).mpr (synced.fresh (careful visit member))

/-- A write that fails before it touches the file does no harm. -/
theorem write_if_changed_truthful_sample :
    Truthful ((run Held.save ⟨.new "m1" "/caddy" "one", none⟩
      [⟨"# one\na", .written⟩, ⟨"# two\nb", .failed "denied" (some "# one\na")⟩]).2,
      ⟨"# three\na", .written⟩) := by
  apply (write_if_changed_truthful_iff "m1" "/caddy" "one" none
    [⟨"# one\na", .written⟩, ⟨"# two\nb", .failed "denied" (some "# one\na")⟩,
      ⟨"# three\na", .written⟩]).2
  · intro visit member
    simp only [visits, List.mem_cons, List.not_mem_nil, or_false] at member
    rcases member with same | same | same <;> rw [same] <;> exact ⟨by decide, by decide⟩
  · exact .tail _ (.tail _ (.head _))

/-- The owner of the second Caddyfile could not be changed: the first one is passed again, and
the call returns without an error while the second one is on disk. -/
theorem write_if_changed_stale :
    (run Held.save ⟨.new "m1" "/caddy" "one", none⟩
      [⟨"# one\na", .written⟩, ⟨"# two\nb", .groupFailed "denied"⟩,
        ⟨"# three\na", .written⟩]).1.getLast? = some (.ok ()) ∧
    (run Held.save ⟨.new "m1" "/caddy" "one", none⟩
      [⟨"# one\na", .written⟩, ⟨"# two\nb", .groupFailed "denied"⟩,
        ⟨"# three\na", .written⟩]).2.body = some "b" := by
  decide

end Ployz.Caddy
