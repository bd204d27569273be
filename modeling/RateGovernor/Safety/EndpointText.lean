import RateGovernor.Dynamics.Numerals
import RateGovernor.Model.Ipc

namespace RateGovernor.Safety.EndpointText

open Model.CheckedMath Model.Identity Model.Entities Model.Ipc Dynamics.Numerals

variable {text front rest : Text} {endpoint : Endpoint}

theorem rfindColon_append (h : colon ∉ rest) :
    rfindColon (front ++ colon :: rest) = some front.length := by
  have hnone : rest.reverse.findIdx? (· = colon) = none := by
    rw [List.findIdx?_eq_none_iff]
    intro ch hch
    exact decide_eq_false fun hcolon ↦ h (hcolon ▸ List.mem_reverse.mp hch)
  have hreverse : (front ++ colon :: rest).reverse = rest.reverse ++ colon :: front.reverse := by
    simp
  rw [rfindColon, hreverse, List.findIdx?_append, hnone, List.findIdx?_cons]
  simp only [decide_true, if_true, Option.map_some, Option.none_or, List.length_append,
    List.length_cons, List.length_reverse]
  congr 1
  omega

theorem exists_cut (h : colon ∈ text) : ∃ front rest, text = front ++ colon :: rest ∧ colon ∉ rest := by
  obtain ⟨before, after, hsplit, hbefore⟩ := List.eq_append_cons_of_mem (List.mem_reverse.mpr h)
  refine ⟨after.reverse, before.reverse, ?_, fun hcolon ↦ hbefore (List.mem_reverse.mp hcolon)⟩
  have hreverse := congrArg List.reverse hsplit
  rw [List.reverse_reverse] at hreverse
  rw [hreverse]
  simp

theorem rfindColon_none (h : colon ∉ text) : rfindColon text = none := by
  rw [rfindColon, Option.map_eq_none_iff, List.findIdx?_eq_none_iff]
  intro ch hch
  exact decide_eq_false fun hcolon ↦ h (hcolon ▸ List.mem_reverse.mp hch)

theorem toNat_port_lt (port : UInt16) : ¬65535 < port.toUInt64 := by
  intro hlt
  have hnat := UInt64.lt_iff_toNat_lt.mp hlt
  have hbound := port.toNat_lt
  rw [UInt16.toNat_toUInt64] at hnat
  have hword : (65535 : UInt64).toNat = 65535 := rfl
  omega

theorem port_of_word {port : U64} (h : ¬65535 < port) : port.toUInt16.toUInt64 = port := by
  rw [UInt64.lt_iff_toNat_lt, Nat.not_lt] at h
  apply UInt64.toNat.inj
  have hword : (65535 : UInt64).toNat = 65535 := rfl
  rw [UInt16.toNat_toUInt64, UInt64.toNat_toUInt16]
  omega

/-- An endpoint is read from a host that is not empty, its last colon and a number that is a port,
and from nothing else; what is written for one with a host is read back. -/
theorem endpoint_grammar :
    (∀ text endpoint, Endpoint.parse text = some endpoint ↔
      ∃ digits, text = endpoint.host ++ colon :: digits ∧ endpoint.host ≠ [] ∧
        parseU64Strict digits = some endpoint.port.toUInt64) ∧
    ∀ endpoint : Endpoint, endpoint.host ≠ [] → Endpoint.parse endpoint.toText = some endpoint := by
  have hread : ∀ text endpoint, Endpoint.parse text = some endpoint ↔
      ∃ digits, text = endpoint.host ++ colon :: digits ∧ endpoint.host ≠ [] ∧
        parseU64Strict digits = some endpoint.port.toUInt64 := by
    intro text endpoint
    constructor
    · intro h
      by_cases hcolon : colon ∈ text
      · obtain ⟨front, rest, rfl, hrest⟩ := exists_cut hcolon
        simp only [Endpoint.parse, rfindColon_append hrest] at h
        split at h
        · cases h
        · next hcut =>
          rw [not_or, Nat.not_le] at hcut
          have hdrop : (front ++ colon :: rest).drop (front.length + 1) = rest := by
            rw [List.append_cons, List.drop_left' (by simp)]
          rw [hdrop] at h
          cases hport : parseU64Strict rest with
          | none => simp only [hport] at h; cases h
          | some port =>
            simp only [hport] at h
            split at h
            · cases h
            · next hbound =>
              cases h
              refine ⟨rest, ?_, ?_, ?_⟩
              · rw [List.take_left]
              · rw [List.take_left]
                rintro rfl
                exact hcut.1 rfl
              · rw [port_of_word hbound, hport]
      · simp only [Endpoint.parse, rfindColon_none hcolon] at h
        cases h
    · rintro ⟨digits, rfl, hhost, hport⟩
      have hnumeral := (parseU64Strict_eq_some.1 hport).1
      have hdigits := colon_notMem hnumeral.digits
      have hcut : ¬(endpoint.host.length = 0 ∨
          (endpoint.host ++ colon :: digits).length ≤ endpoint.host.length + 1) := by
        have hnonempty := hnumeral.nonempty
        have hlength : endpoint.host.length ≠ 0 := fun hzero ↦
          hhost (List.length_eq_zero_iff.mp hzero)
        rw [List.length_append, List.length_cons]
        omega
      have hdrop : (endpoint.host ++ colon :: digits).drop (endpoint.host.length + 1) = digits := by
        rw [List.append_cons, List.drop_left' (by simp)]
      simp only [Endpoint.parse, rfindColon_append hdigits, hcut, if_false, hdrop, hport,
        toNat_port_lt, List.take_left, UInt16.toUInt16_toUInt64]
  refine ⟨hread, fun endpoint hhost ↦ (hread _ endpoint).mpr ?_⟩
  exact ⟨decimal endpoint.port.toUInt64, rfl, hhost, parseU64Strict_decimal _⟩

theorem endpoint_grammar_nested :
    Endpoint.parse (ascii "127.0.0.1:7070") = some { port := 7070 } ∧
      Endpoint.parse (Endpoint.toText ⟨ascii "fe80::1", 80⟩) = some ⟨ascii "fe80::1", 80⟩ := by
  obtain ⟨hread, hround⟩ := endpoint_grammar
  refine ⟨(hread _ _).2 ⟨ascii "7070", ?_, ?_, ?_⟩, hround _ ?_⟩
  · decide
  · decide
  · decide
  · decide

end RateGovernor.Safety.EndpointText
