import Ployz.Config.Destination

/-!
# SSH destinations are read back

What is written for a user, a host and a port is cut at the same places. The user ends at the
first `@`, since it has none. A host with two colons or more is not cut while it stands alone, and
in brackets its colons are not looked at; a host with one colon would be taken for a host and a
port.
-/

namespace Ployz.Config

/-- An integer is read off its text. -/
theorem parseSigned_integerText {limit : Nat} {value : Int}
    (fits : -(limit : Int) ≤ value ∧ value < limit) :
    parseSigned limit (integerText value) = .ok value := by
  have whole : digitsValue 10 (Nat.toDigits 10 value.natAbs) = value.natAbs :=
    digitsValue_toDigits (by decide) (by decide) _
  apply parseSigned_eq_ok_iff.mpr
  refine ⟨Nat.toDigits 10 value.natAbs, Nat.toDigits_ne_nil, fun c member => ?_, ?_⟩
  · obtain ⟨digit, small, rfl⟩ := exists_of_mem_toDigits (by decide) member
    rw [toDigit_digitChar (by decide) small]
    rfl
  · rw [whole, integerText]
    split_ifs with negative
    · exact .inr ⟨rfl, by omega, by omega⟩
    · exact .inl ⟨.inl rfl, by omega, by omega⟩

theorem notMem_integerText (value : Int) : ':' ∉ integerText value := by
  have digits : ':' ∉ Nat.toDigits 10 value.natAbs := notMem_toDigits (by decide) _
  unfold integerText
  split <;> simp [digits]

variable {host port : List Char}

theorem splitHostPort_bracketed (closed : ']' ∉ host) (single : ':' ∉ port) :
    splitHostPort ('[' :: host ++ ']' :: ':' :: port) = some (host, port) := by
  show splitHostPort ('[' :: (host ++ ']' :: ':' :: port)) = _
  rw [splitHostPort, splitOnce_append closed]
  exact if_neg single

theorem splitHostPort_of_unbracketed {text : List Char} (plain : text.head? ≠ some '[') :
    splitHostPort text =
      match text.splitOn ':' with
      | [host, port] => some (host, port)
      | _ => none := by
  unfold splitHostPort
  split
  case h_1 bracketed => exact absurd rfl plain
  case h_2 => rfl

theorem splitHostPort_plain (open_ : '[' ∉ host) (named : ':' ∉ host) (single : ':' ∉ port) :
    splitHostPort (host ++ ':' :: port) = some (host, port) := by
  have plain : (host ++ ':' :: port).head? ≠ some '[' := by
    cases host with
    | nil => exact nofun
    | cons c host =>
      intro first
      exact open_ (Option.some.inj first ▸ List.mem_cons_self)
  rw [splitHostPort_of_unbracketed plain, splitOn_append_cons, splitOn_eq_singleton named,
    splitOn_eq_singleton single]
  rfl

theorem splitHostPort_alone (open_ : '[' ∉ host) (shape : host.count ':' ≠ 1) :
    splitHostPort host = none := by
  have plain : host.head? ≠ some '[' := fun first => open_ (List.mem_of_mem_head? first)
  have pieces := length_splitOn ':' host
  rw [splitHostPort_of_unbracketed plain]
  split
  case h_1 name port two =>
    rw [two] at pieces
    exact absurd (Nat.succ.inj pieces).symm shape
  case h_2 => rfl

/-- The part of `SshDestination::parse` after the user. -/
def readHostPort (text : List Char) : Except ParseSshDestinationError (List Char × Int64) :=
  match splitHostPort text with
  | none => .ok (text, 0)
  | some (host, port) =>
    match parseSigned (2 ^ 63) port with
    | .ok value => .ok (host, Int64.ofInt value)
    | .error source => .error ⟨port, source⟩

theorem parse_eq (self : SshDestination) :
    self.parse =
      let (user, host) := (splitOnce '@' self.text).getD ([], self.text)
      (readHostPort host).map fun read => (user, read) := by
  unfold SshDestination.parse readHostPort
  cases (splitOnce '@' self.text).getD ([], self.text) with
  | mk user host =>
    cases cut : splitHostPort host with
    | none => simp only [cut, Except.map]
    | some parts =>
      cases read : parseSigned (2 ^ 63) parts.2 <;> simp only [cut, read, Except.map]

theorem readHostPort_hostPort (open_ : '[' ∉ host) (closed : ']' ∉ host)
    (shape : host.count ':' ≠ 1) (port : Int64) :
    readHostPort (hostPort host port) = .ok (host, port) := by
  have read : parseSigned (2 ^ 63) (integerText port.toInt) = .ok port.toInt :=
    parseSigned_integerText ⟨port.le_toInt, port.toInt_lt⟩
  have single := notMem_integerText port.toInt
  unfold readHostPort hostPort
  split_ifs with zero colons
  · rw [splitHostPort_alone open_ shape, zero]
  · rw [splitHostPort_bracketed closed single]
    simp only [read, Int64.ofInt_toInt]
  · rw [splitHostPort_plain open_ colons single]
    simp only [read, Int64.ofInt_toInt]

theorem notMem_hostPort (plain : '@' ∉ host) (port : Int64) : '@' ∉ hostPort host port := by
  have digits : '@' ∉ integerText port.toInt := by
    have absent : '@' ∉ Nat.toDigits 10 port.toInt.natAbs := notMem_toDigits (by decide) _
    unfold integerText
    split <;> simp [absent]
  unfold hostPort
  split_ifs <;> simp [plain, digits]

/-- A destination that was built for a user, a host and a port is parsed as those. -/
theorem parse_newSshDestination {user host : List Char} (port : Int64) (unmarked : '@' ∉ user)
    (plain : '@' ∉ host) (open_ : '[' ∉ host) (closed : ']' ∉ host)
    (shape : host.count ':' = 0 ∨ 2 ≤ host.count ':') :
    (newSshDestination user host port).parse = .ok (user, host, port) := by
  have cut : (splitOnce '@' (newSshDestination user host port).text).getD
      ([], (newSshDestination user host port).text) = (user, hostPort host port) := by
    unfold newSshDestination
    by_cases nobody : user = []
    · rw [if_pos nobody, splitOnce_eq_none (notMem_hostPort plain port), nobody]
      rfl
    · rw [if_neg nobody, splitOnce_append unmarked]
      rfl
  have read : readHostPort (hostPort host port) = .ok (host, port) :=
    readHostPort_hostPort open_ closed (by omega) port
  rw [parse_eq, cut]
  show (readHostPort (hostPort host port)).map (fun read => (user, read)) = _
  rw [read]
  rfl

/-- An IPv6 address with a negative port, which needs the brackets. -/
theorem parse_newSshDestination_sample :
    (newSshDestination "root".toList "fd00::1".toList (-5)).parse =
      .ok ("root".toList, "fd00::1".toList, -5) :=
  parse_newSshDestination (-5) (by decide) (by decide) (by decide) (by decide) (by decide)

end Ployz.Config
