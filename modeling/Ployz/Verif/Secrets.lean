import Ployz.Store.Container

/-!
# Environment variables and the store

Two containers that differ in environment variables only are written as the same text, except for
those of the pre-deploy hook: they are not taken out, and the text tells them apart. That it does
is shown by reading: a character of a string is read back from the front of its stored text.
-/

namespace Ployz.Store

open Api Docker Json List

section Reading

/-- A character of a string in the stored text. -/
def storedChar (c : Char) : List Char := goEscapeJson (escapeChar c)

/-- The characters that Go escapes besides. -/
def marked : List Char := ['<', '>', '&', '\u2028', '\u2029']

theorem readChar_marked {c : Char} (member : c ∈ marked) (rest : List Char) :
    readChar (storedChar c ++ rest) = some (c, rest) := by
  have each : ∀ c ∈ marked, readChar (storedChar c ++ rest) = some (c, rest) := by
    simp only [marked, forall_mem_cons]
    exact ⟨rfl, rfl, rfl, rfl, rfl, fun c member => absurd member not_mem_nil⟩
  exact each c member

theorem storedChar_control {code : Nat} (control : code < 0x20) :
    storedChar (Char.ofNat code) = escapeChar (Char.ofNat code) := by
  interval_cases code <;> rfl

theorem storedChar_unmarked {c : Char} (unmarked : c ∉ marked) : storedChar c = escapeChar c := by
  by_cases control : c.toNat < 0x20
  · have stored := storedChar_control control
    rwa [Char.ofNat_toNat] at stored
  by_cases quote : c = '"'
  · rw [quote]
    rfl
  by_cases backslash : c = '\\'
  · rw [backslash]
    rfl
  simp only [marked, mem_cons, not_mem_nil, or_false, not_or] at unmarked
  rw [storedChar, escapeChar_printable control quote backslash]
  simp [goEscapeJson, goEscapeChar, unmarked]

theorem readChar_storedChar (c : Char) (rest : List Char) :
    readChar (storedChar c ++ rest) = some (c, rest) := by
  by_cases member : c ∈ marked
  · exact readChar_marked member rest
  · rw [storedChar_unmarked member]
    exact readChar_escapeChar c rest

end Reading

section Strings

variable {rest rest' : List Char}

theorem goEscapeJson_append (front back : List Char) :
    goEscapeJson (front ++ back) = goEscapeJson front ++ goEscapeJson back :=
  flatMap_append

theorem goEscapeJson_writeString (value : String) :
    goEscapeJson (writeString value) = '"' :: value.toList.flatMap storedChar ++ ['"'] := by
  simp only [writeString, cons_append, goEscapeJson, flatMap_cons, flatMap_append,
    flatMap_assoc]
  rfl

theorem storedString_inj {value value' : String}
    (same : goEscapeJson (writeString value) ++ rest =
      goEscapeJson (writeString value') ++ rest') : value = value' ∧ rest = rest' := by
  simp only [goEscapeJson_writeString, cons_append, append_assoc, nil_append,
    List.cons.injEq, true_and] at same
  obtain ⟨chars, tail⟩ := escaped_inj readChar_storedChar same
  exact ⟨String.toList_inj.mp chars, tail⟩

end Strings

section Environments

/-- The members of an environment. -/
def envMembers (env : List (String × String)) : List (String × Json) :=
  env.map fun (key, value) => (key, .str value)

theorem storedMembers_cons (first : Bool) (entry : String × String)
    (env : List (String × String)) :
    goEscapeJson (writeMembers first (envMembers (entry :: env))) ++ ['\x7d'] =
      comma first ++ (goEscapeJson (writeString entry.1) ++ ':' ::
        (goEscapeJson (writeString entry.2) ++
          (goEscapeJson (writeMembers false (envMembers env)) ++ ['\x7d']))) := by
  have separator : goEscapeJson (comma first) = comma first := by cases first <;> rfl
  have colon (text : List Char) : goEscapeJson (':' :: text) = ':' :: goEscapeJson text := rfl
  simp only [envMembers, map_cons, writeMembers, write, goEscapeJson_append, separator,
    append_assoc, colon, cons_append]

theorem storedMembers_ne (first : Bool) (entry : String × String)
    (env : List (String × String)) :
    goEscapeJson (writeMembers first (envMembers (entry :: env))) ++ ['\x7d'] ≠ ['\x7d'] := by
  rw [storedMembers_cons, goEscapeJson_writeString]
  cases first <;> simp [comma]

theorem storedMembers_inj (first : Bool) {env env' : List (String × String)}
    (same : goEscapeJson (writeMembers first (envMembers env)) ++ ['\x7d'] =
      goEscapeJson (writeMembers first (envMembers env')) ++ ['\x7d']) : env = env' := by
  induction env generalizing first env' with
  | nil =>
    cases env' with
    | nil => rfl
    | cons entry' env' => exact absurd same.symm (storedMembers_ne first entry' env')
  | cons entry env ih =>
    cases env' with
    | nil => exact absurd same (storedMembers_ne first entry env)
    | cons entry' env' =>
      rw [storedMembers_cons, storedMembers_cons, append_cancel_left_eq] at same
      obtain ⟨key, rest⟩ := storedString_inj same
      obtain ⟨value, tail⟩ := storedString_inj (List.cons.inj rest).2
      rw [Prod.ext key value, ih false tail]

theorem storedEnv_inj {env env' : GoMap String}
    (same : goEscapeJson (mapJson .str env).write = goEscapeJson (mapJson .str env').write) :
    env = env' := by
  obtain ⟨nil, values, nil_empty⟩ := env
  obtain ⟨nil', values', nil_empty'⟩ := env'
  cases nil <;> cases nil'
  · have members : values.toList = values'.toList := by
      have braces (text : List Char) : goEscapeJson ('\x7b' :: text ++ ['\x7d']) =
          '\x7b' :: (goEscapeJson text ++ ['\x7d']) := by
        rw [cons_append, goEscapeJson, flatMap_cons, flatMap_append]
        rfl
      simp only [mapJson, Bool.false_eq_true, if_false, write, braces] at same
      exact storedMembers_inj true (List.cons.inj same).2
    simp only [Std.ExtTreeMap.toList_inj.mp members]
  · exact nomatch (List.cons.inj same).1
  · exact nomatch (List.cons.inj same).1
  · simp only [nil_empty rfl, nil_empty' rfl]

end Environments

/-- A container without its environment variables. -/
def eraseEnv (container : ServiceContainer) : ServiceContainer :=
  { container with
    container := { container.container with
      config := container.container.config.map fun config => { config with env := .default } }
    serviceSpec := { container.serviceSpec with
      container := { container.serviceSpec.container with env := .default }
      preDeploy := container.serviceSpec.preDeploy.map fun hook => { hook with env := .default } } }

/-- The environment of the pre-deploy hook. -/
def hookEnv (container : ServiceContainer) : Option (GoMap String) :=
  container.serviceSpec.preDeploy.map Docker.PreDeployHook.env

/-- A container with another pre-deploy hook. -/
def withHook (container : ServiceContainer) (hook : Option Docker.PreDeployHook) : ServiceContainer :=
  { container with serviceSpec := { container.serviceSpec with preDeploy := hook } }

theorem normalise_eraseEnv (container : ServiceContainer) :
    normaliseContainerForStore container =
      withHook (normaliseContainerForStore (eraseEnv container))
        container.serviceSpec.preDeploy := by
  simp only [normaliseContainerForStore, eraseEnv, withHook, Option.map_map]
  rfl

/-- The environment of the hook stands in the stored text as it is. -/
theorem contains_hookEnv (container : ServiceContainer) (hook : Docker.PreDeployHook) :
    ∃ before after, ∀ env,
      goEscapeJson (withHook container (some { hook with env := env })).toJson.write =
        before ++ goEscapeJson (mapJson .str env).write ++ after := by
  obtain ⟨before, after, text⟩ := ((contains_self.member
    [("Command", sliceJson .str hook.command)]
    [("Privileged", .optional .bool hook.privileged), ("Timeout", .optional .int hook.timeout),
      ("User", .str hook.user)] "Env").member container.serviceSpec.frontMembers
      container.serviceSpec.backMembers "PreDeploy").member container.container.members []
      "ServiceSpec"
  refine ⟨goEscapeJson before, goEscapeJson after, fun env => ?_⟩
  rw [← goEscapeJson_append, ← goEscapeJson_append, ← text]
  beta_reduce
  rw [append_cons container.serviceSpec.frontMembers]
  rfl

/-- Without its environment a hook is one of the hooks that differ from it in the environment
only. -/
theorem hook_eq_of_erased {hook hook' : Docker.PreDeployHook}
    (same : { hook with env := .default } = { hook' with env := .default }) :
    hook' = { hook with env := hook'.env } := by
  obtain ⟨command, env, privileged, timeout, user⟩ := hook
  obtain ⟨command', env', privileged', timeout', user'⟩ := hook'
  simp only [Docker.PreDeployHook.mk.injEq] at same
  obtain ⟨rfl, _, rfl, rfl, rfl⟩ := same
  rfl

theorem withHook_text_eq_iff (container : ServiceContainer) {hook hook' : Option Docker.PreDeployHook}
    (same : hook.map (fun hook => { hook with env := .default }) =
      hook'.map fun hook => { hook with env := .default }) :
    goEscapeJson (withHook container hook).toJson.write =
        goEscapeJson (withHook container hook').toJson.write ↔
      hook.map Docker.PreDeployHook.env = hook'.map Docker.PreDeployHook.env := by
  cases hook with
  | none =>
    cases hook' with
    | none => exact ⟨fun _ => rfl, fun _ => rfl⟩
    | some hook' => exact nomatch same
  | some hook =>
    cases hook' with
    | none => exact nomatch same
    | some hook' =>
      obtain ⟨before, after, text⟩ := contains_hookEnv container hook
      have written := text hook.env
      have written' := text hook'.env
      rw [← hook_eq_of_erased (Option.some.inj same)] at written'
      rw [written, written', append_cancel_right_eq, append_cancel_left_eq,
        Option.map_some, Option.map_some, Option.some.injEq]
      exact ⟨storedEnv_inj, fun env => by rw [env]⟩

/-- Of two containers equal up to environment variables the stored texts are equal exactly when
the environments of their pre-deploy hooks are. -/
theorem stored_text_eq_iff (container container' : ServiceContainer) (machineId : String)
    (same : eraseEnv container = eraseEnv container') :
    (createOrUpdateContainer container machineId).container =
        (createOrUpdateContainer container' machineId).container ↔
      hookEnv container = hookEnv container' := by
  have hooks := congrArg (fun erased => erased.serviceSpec.preDeploy) same
  rw [createOrUpdateContainer, createOrUpdateContainer, normalise_eraseEnv container,
    normalise_eraseEnv container', same, String.ofList_inj]
  exact withHook_text_eq_iff _ hooks

namespace Sample

/-- A container whose service has a hook with a password in its environment. -/
def container (password : String) : ServiceContainer where
  container := default
  serviceSpec := { (default : Docker.ServiceSpec) with
    preDeploy := some { (default : Docker.PreDeployHook) with
      env := .ofMap ((∅ : OrdMap String String).insert "PASSWORD" password) } }

theorem eraseEnv_container (password password' : String) :
    eraseEnv (container password) = eraseEnv (container password') := by
  simp only [eraseEnv, container, Option.map]

end Sample

open Sample

theorem stored_text_eq_iff_sample :
    (createOrUpdateContainer (container "a") "m").container =
        (createOrUpdateContainer (container "b") "m").container ↔
      hookEnv (container "a") = hookEnv (container "b") :=
  stored_text_eq_iff (container "a") (container "b") "m"
    (eraseEnv_container "a" "b")

/-- Two containers that differ in a password of the hook only are told apart by the text. -/
theorem hook_environment_stored :
    eraseEnv (container "a") = eraseEnv (container "b") ∧
      (createOrUpdateContainer (container "a") "m").container ≠
        (createOrUpdateContainer (container "b") "m").container := by
  refine ⟨eraseEnv_container "a" "b", fun same => ?_⟩
  have envs := (withHook_text_eq_iff (normaliseContainerForStore (container "a"))
    (congrArg (fun erased => erased.serviceSpec.preDeploy) (eraseEnv_container "a" "b"))).mp
    (String.ofList_inj.mp same)
  exact absurd envs (by decide +kernel)

end Ployz.Store
