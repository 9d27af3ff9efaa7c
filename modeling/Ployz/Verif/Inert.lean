import Ployz.Base.Lines
import Ployz.Verif.Caddyfile

/-!
# What the notes on skipped configs do to a Caddyfile

The notes come after the text that was validated last, each behind a `#`. They repeat the
error of the template engine or of the validator as it is, so a line break in it, or in the
name of the service, starts a line of the Caddyfile that is no comment. The content of the file
is that of the accepted text exactly when no such text has a line break that speaks up.
-/

namespace Ployz.Caddy

open Lines List

/-- The text of the error. -/
def Failure.error : Failure → String
  | .render error | .validation error => error

/-- What comes before the notes. -/
def skippedMarker : String := "\n# Skipped invalid user-defined configs:\n"

section Notes

/-- The notes, one after the other. -/
def noteLines (errors : List String) : List Char :=
  errors.flatMap fun error => "# - ".toList ++ error.toList ++ ['\n']

theorem toList_foldl_notes (errors : List String) (text : String) :
    (errors.foldl (fun caddyfile error => caddyfile ++ "# - " ++ error ++ "\n") text).toList =
      text.toList ++ noteLines errors := by
  induction errors generalizing text with
  | nil => simp [noteLines]
  | cons error rest ih =>
    rw [foldl_cons, ih]
    simp [noteLines]

theorem toList_errorSection (errors : List String) :
    (CaddyfileGenerator.errorSection errors).toList =
      if errors = [] then [] else skippedMarker.toList ++ noteLines errors := by
  cases errors with
  | nil => rfl
  | cons error rest => exact toList_foldl_notes _ _

theorem content_noteLines (errors : List String) :
    content (noteLines errors) = [] ↔ ∀ error ∈ errors, Quiet error.toList := by
  induction errors with
  | nil => simp [noteLines, content, lines, Inert]
  | cons error rest ih =>
    have grown : noteLines (error :: rest) =
        ('#' :: (" - ".toList ++ error.toList)) ++ '\n' :: noteLines rest := by
      simp [noteLines]
    rw [grown, content_append, append_eq_nil_iff, ih, content_comment,
      quiet_append_of_notMem (by decide), forall_mem_cons]

theorem content_errorSection (text : List Char) (errors : List String) :
    content (text ++ (CaddyfileGenerator.errorSection errors).toList) =
      content text ++ content (noteLines errors) := by
  rw [toList_errorSection]
  split
  · rename_i none
    simp [none, noteLines, content, lines, Inert]
  · have marked : text ++ (skippedMarker.toList ++ noteLines errors) =
        text ++ '\n' :: ("# Skipped invalid user-defined configs:".toList ++
          '\n' :: noteLines errors) := by
      simp [skippedMarker]
    have comment : content "# Skipped invalid user-defined configs:".toList = [] := by
      decide +kernel
    rw [marked, content_append, content_append, comment, nil_append]

end Notes

section Quoted

/-- A quoted name in a comment speaks up by itself or by what follows it. -/
theorem quiet_quoted {front : List Char} (absent : '\n' ∉ front) (name back : List Char) :
    Quiet (front ++ (name ++ "'".toList ++ back)) ↔ Quiet (name ++ "'".toList) ∧ Quiet back := by
  have cut : name ++ "'".toList ++ back = name ++ Char.ofNat 39 :: back := by simp
  rw [quiet_append_of_notMem absent, cut, quiet_append (by decide)]
  rfl

theorem quiet_note (skipped : Skipped) :
    Quiet skipped.note.toList ↔
      Quiet (skipped.service.toList ++ "'".toList) ∧ Quiet skipped.failure.error.toList := by
  have ⟨service, failure⟩ := skipped
  have front : '\n' ∉ "service '".toList := by decide
  cases failure with
  | render error =>
    have shape : (Skipped.note ⟨service, .render error⟩).toList = "service '".toList ++
        (service.toList ++ "'".toList ++ (": failed to render template: ".toList ++
          error.toList)) := by
      simp [Skipped.note]
    rw [shape, quiet_quoted front]
    exact and_congr_right' (quiet_append_of_notMem (by decide) _)
  | validation error =>
    have shape : (Skipped.note ⟨service, .validation error⟩).toList = "service '".toList ++
        (service.toList ++ "'".toList ++ (": validation failed: ".toList ++ error.toList)) := by
      simp [Skipped.note]
    rw [shape, quiet_quoted front]
    exact and_congr_right' (quiet_append_of_notMem (by decide) _)

theorem content_quoted_lines {start warning second third : String}
    {opened shut updated docs time : List Char} (first : start.toList = '#' :: opened)
    (closing : warning.toList = "'".toList ++ shut) (secondLine : second.toList = updated ++ ['\n'])
    (thirdLine : third.toList = docs ++ ['\n']) (openedLine : '\n' ∉ opened)
    (rest : Quiet (shut ++ time)) (comment : content updated = []) (link : content docs = [])
    (name : String) :
    content (start ++ name ++ warning ++ String.ofList time ++ "\n" ++ second ++ third).toList =
      [] ↔ Quiet (name.toList ++ "'".toList) := by
  have shape : (start ++ name ++ warning ++ String.ofList time ++ "\n" ++ second ++ third).toList =
      ('#' :: (opened ++ (name.toList ++ "'".toList ++ (shut ++ time)))) ++
        '\n' :: (updated ++ '\n' :: (docs ++ '\n' :: [])) := by
    simp [first, closing, secondLine, thirdLine]
  have last : content [] = [] := by decide
  rw [shape, content_append, content_append, content_append, comment, link, last,
    append_nil, append_nil, append_nil, content_comment, quiet_quoted openedLine]
  exact and_iff_left rest

theorem content_header (self : CaddyfileGenerator) (now : Int) :
    content (self.header now).toList = [] ↔ Quiet (self.machineName.toList ++ "'".toList) := by
  have first : "# Caddyfile autogenerated by Uncloud on machine '".toList =
    '#' :: " Caddyfile autogenerated by Uncloud on machine '".toList := by decide +kernel
  have closing : "' (DO NOT EDIT): ".toList = "'".toList ++ " (DO NOT EDIT): ".toList := by
    decide +kernel
  have second : "# Automatically updated on service or health status changes.\n".toList =
    "# Automatically updated on service or health status changes.".toList ++ ['\n'] := by
    decide +kernel
  have third : "# Docs: https://uncloud.run/docs/concepts/ingress/overview\n".toList =
    "# Docs: https://uncloud.run/docs/concepts/ingress/overview".toList ++ ['\n'] := by
    decide +kernel
  have time : Quiet (" (DO NOT EDIT): ".toList ++ Docker.rfc3339Utc now) := by
    rw [quiet_append_of_notMem (by decide)]
    exact quiet_of_notMem (Docker.newline_notMem_rfc3339Utc now)
  exact content_quoted_lines first closing second third (by decide +kernel) time
    (by decide +kernel) (by decide +kernel) self.machineName

end Quoted

section Inert

variable (self : CaddyfileGenerator) (render : Renderer) (records : List ContainerRecord)

/-- The text that was accepted last. -/
def acceptedText : String := (outcomeOf self render records).text (self.base records)

/-- The template engine or the validator rejects the config of a service. -/
def Rejected (service : String) (failure : Failure) : Prop :=
  (service = caddyServiceName ∧ GlobalVerdict self render records (.error failure)) ∨
    ServiceVerdict self render records (outcomeOf self render records) service (.error failure)

/-- Every line after the line that announces the notes is empty or a comment, and the file has
the content of the accepted text. -/
def NotesInert (now : Int) (output : String) : Prop :=
  (∀ after, output = self.header now ++ "\n" ++ acceptedText self render records ++
      skippedMarker ++ after → ∀ line ∈ lines after.toList, Inert line) ∧
    content output.toList = content (acceptedText self render records).toList

theorem after_marker {now : Int} {errors : List String} {after : String}
    (shape : self.header now ++ "\n" ++ (acceptedText self render records ++
        CaddyfileGenerator.errorSection errors) =
      self.header now ++ "\n" ++ acceptedText self render records ++ skippedMarker ++ after) :
    after.toList = noteLines errors := by
  have chars := congrArg String.toList shape
  simp only [String.toList_append, append_assoc, append_cancel_left_eq,
    toList_errorSection] at chars
  split at chars
  · exact absurd (congrArg List.length chars) (by simp [skippedMarker])
  · exact (append_cancel_left chars).symm

/-- The notes of a run. -/
def skippedNotes : List String := (outcomeOf self render records).skipped.map Skipped.note

theorem content_output (now : Int) :
    content (self.header now ++ "\n" ++ (acceptedText self render records ++
        CaddyfileGenerator.errorSection (skippedNotes self render records))).toList =
      content (self.header now).toList ++ (content (acceptedText self render records).toList ++
        content (noteLines (skippedNotes self render records))) := by
  rw [← content_errorSection, ← content_append]
  simp

theorem content_skippedNotes :
    content (noteLines (skippedNotes self render records)) = [] ↔
      ∀ service failure, Rejected self render records service failure →
        Quiet (service.toList ++ "'".toList) ∧ Quiet failure.error.toList := by
  have isolated := isolated_outcomeOf self render records
  rw [content_noteLines, skippedNotes, forall_mem_map]
  constructor
  · intro quiet service failure rejected
    have member := (isolated.skipped service failure).mpr rejected
    exact (quiet_note ⟨service, failure⟩).mp (quiet _ member)
  · intro quiet skipped member
    have rejected := (isolated.skipped skipped.service skipped.failure).mp member
    exact (quiet_note skipped).mpr (quiet _ _ rejected)

/-- The file is inert after the accepted text exactly when the names of the machine and of the
rejected services, and the errors of those, have no line break that speaks up. -/
theorem skipped_configs_inert_iff (now : Int) :
    ∃ output, self.generate render now records true = .ok output ∧
      (acceptedText self render records = self.base records ∨
        self.validate (acceptedText self render records) = .ok ()) ∧
      (NotesInert self render records now output ↔
        Quiet (self.machineName.toList ++ "'".toList) ∧
          ∀ service failure, Rejected self render records service failure →
            Quiet (service.toList ++ "'".toList) ∧ Quiet failure.error.toList) := by
  refine ⟨_, generate_eq self render records now, sound_text self render records, ?_⟩
  have whole := content_output self render records now
  rw [← content_skippedNotes, ← content_header self now]
  constructor
  · intro ⟨_, same⟩
    have lengths := congrArg List.length (whole.symm.trans same)
    simp only [length_append] at lengths
    constructor
    · apply eq_nil_of_length_eq_zero
      omega
    · apply eq_nil_of_length_eq_zero
      omega
  · intro ⟨header, notes⟩
    constructor
    · intro after shape
      rw [after_marker self render records shape]
      exact content_eq_nil.mp notes
    · rw [header, notes, nil_append, append_nil] at whole
      exact whole

end Inert

namespace Sample

open Docker Api

/-- The spec of a service with a config. -/
def spec (config : String) : Docker.ServiceSpec :=
  { (default : Docker.ServiceSpec) with caddy := some ⟨config⟩ }

/-- A record of a container in the network of the cluster, with its ports and a config. -/
def record (id machineId service created ip ports config : String) : ContainerRecord where
  container :=
    { container := { (default : Container) with
        id, created
        config := some { (default : ContainerConfig) with
          labels := .ofMap (((∅ : OrdMap String String).insert "uncloud.service.name"
            service).insert "uncloud.service.ports" ports) }
        networkSettings := some { (default : NetworkSettings) with
          networks := .ofMap ((∅ : OrdMap String EndpointSettings).insert "uncloud" ⟨ip, ∅⟩) } }
      serviceSpec := spec config }
  machineId

/-- A generator whose validator answers with two lines. -/
def twoLines : CaddyfileGenerator where
  machineId := "m1"
  machineName := "one"
  validator := some fun _ => .error "unrecognized directive: x\nrespond 200"

/-- A template engine for texts without actions. -/
def plain : Renderer := fun _ source => .ok source

end Sample

open Sample

/-- The second line of an error of the validator is a line of the Caddyfile. -/
theorem skipped_config_speaks :
    ∃ output after, twoLines.generate plain 0
        [record "c1" "m1" "web" "2026-08-12T00:00:00Z" "10.210.0.2" "" "x"] true =
          .ok output ∧
      output = twoLines.header 0 ++ "\n" ++ acceptedText twoLines plain
        [record "c1" "m1" "web" "2026-08-12T00:00:00Z" "10.210.0.2" "" "x"] ++
          skippedMarker ++ after ∧
      "respond 200".toList ∈ lines after.toList ∧ ¬Inert "respond 200".toList := by
  have skipped : (outcomeOf twoLines plain
      [record "c1" "m1" "web" "2026-08-12T00:00:00Z" "10.210.0.2" "" "x"]).skipped =
      [⟨"web", .validation "unrecognized directive: x\nrespond 200"⟩] := by
    decide +kernel
  refine ⟨_, "# - service 'web': validation failed: unrecognized directive: x\nrespond 200\n",
    generate_eq _ _ _ 0, ?_, by decide +kernel, by decide⟩
  rw [skipped]
  have notes : CaddyfileGenerator.errorSection ([⟨"web",
      .validation "unrecognized directive: x\nrespond 200"⟩].map Skipped.note) = skippedMarker ++
      "# - service 'web': validation failed: unrecognized directive: x\nrespond 200\n" := by
    decide +kernel
  have joined : ∀ header text marker after : String, header ++ "\n" ++ (text ++ (marker ++ after)) =
      header ++ "\n" ++ text ++ marker ++ after := by
    intro header text marker after
    simp only [String.append_assoc]
  rw [notes]
  exact joined _ _ _ _

end Ployz.Caddy
