import FramedLines.Endpoint
import Mathlib.Data.List.Basic

-- Endpoints in writing. What is accepted is the name of a scheme, the mark and an address that is
-- not empty, and it stands for the endpoint that is written that way.

namespace FramedLines

namespace Text

variable {before after : List Char}

-- A cut takes out the mark and nothing else.
theorem eq_of_cut {mark chars : List Char} (hcut : cut mark chars = some (before, after)) :
    chars = before ++ (mark ++ after) := by
  induction chars generalizing before with
  | nil =>
      rw [cut] at hcut
      split at hcut
      · next hempty =>
          cases hcut
          simpa using hempty
      · cases hcut
  | cons c rest ih =>
      rw [cut] at hcut
      split at hcut
      · next hhere =>
          cases hcut
          obtain ⟨behind, hbehind⟩ := List.isPrefixOf_iff_prefix.mp hhere
          rw [← hbehind, List.drop_left, List.nil_append]
      · obtain ⟨⟨front, back⟩, hrest, hfront⟩ := Option.map_eq_some_iff.mp hcut
        cases hfront
        rw [ih hrest, List.cons_append]

-- No mark can begin in front of where it first could.
theorem cut_of_notMem {first : Char} (hbefore : first ∉ before) (mark after : List Char) :
    cut (first :: mark) (before ++ (first :: mark ++ after)) = some (before, after) := by
  induction before with
  | nil =>
      have hhere : (first :: mark).isPrefixOf (first :: (mark ++ after)) = true :=
        List.isPrefixOf_iff_prefix.mpr ⟨after, rfl⟩
      rw [List.nil_append, List.cons_append, cut, if_pos hhere, ← List.cons_append, List.drop_left]
  | cons c before ih =>
      rw [List.mem_cons, not_or] at hbefore
      have hlater : (first :: mark).isPrefixOf
          (c :: (before ++ (first :: mark ++ after))) = false := by
        simp [List.isPrefixOf, hbefore.1]
      rw [List.cons_append, cut, hlater, if_neg Bool.false_ne_true, ih hbefore.2, Option.map_some]

end Text

namespace Scheme

variable {scheme : Scheme} {text : String}

theorem parse_text (scheme : Scheme) : parse scheme.text = .ok scheme := by
  cases scheme <;> rfl

theorem text_of_parse (hparse : parse text = .ok scheme) : scheme.text = text := by
  rw [parse] at hparse
  split at hparse
  · next hfind =>
      cases hparse
      have hsame := List.find?_some hfind
      exact eq_of_beq hsame
  · cases hparse

theorem code_of_parse {fault : Fault} (hparse : parse text = .error fault) :
    fault.code = .resolve := by
  rw [parse] at hparse
  split at hparse
  · cases hparse
  · cases hparse
    rfl

theorem colon_notMem (scheme : Scheme) : ':' ∉ scheme.text.toList := by
  cases scheme <;> decide

end Scheme

namespace Endpoint

variable {uri : String} {endpoint : Endpoint}

theorem text_toList (endpoint : Endpoint) : endpoint.text.toList =
    endpoint.scheme.text.toList ++ (mark.toList ++ endpoint.address.toList) := by
  rw [text, String.toList_append, String.toList_append, List.append_assoc]

theorem parse_text (haddress : endpoint.address ≠ "") :
    parse endpoint.text = .ok endpoint := by
  have hcut : Text.cut mark.toList endpoint.text.toList =
      some (endpoint.scheme.text.toList, endpoint.address.toList) := by
    rw [text_toList]
    exact Text.cut_of_notMem endpoint.scheme.colon_notMem ['/', '/'] _
  have hfull : endpoint.address.toList.isEmpty = false := by
    simpa using haddress
  simp only [parse, hcut, String.ofList_toList, Scheme.parse_text, hfull, if_neg Bool.false_ne_true]

theorem of_parse (hparse : parse uri = .ok endpoint) :
    endpoint.address ≠ "" ∧ endpoint.text = uri := by
  rw [parse] at hparse
  split at hparse
  · cases hparse
  · next before after hcut =>
      split at hparse
      · cases hparse
      · next scheme hscheme =>
          split at hparse
          · cases hparse
          · next hfull =>
              cases hparse
              refine ⟨fun hempty => hfull ?_, String.toList_inj.mp ?_⟩
              · have hchars := congrArg String.toList hempty
                rw [String.toList_ofList] at hchars
                exact List.isEmpty_iff.mpr hchars
              · rw [text_toList, Text.eq_of_cut hcut, Scheme.text_of_parse hscheme,
                  String.toList_ofList, String.toList_ofList]

theorem parse_eq_ok_iff :
    parse uri = .ok endpoint ↔ endpoint.address ≠ "" ∧ endpoint.text = uri := by
  refine ⟨of_parse, ?_⟩
  rintro ⟨haddress, rfl⟩
  exact parse_text haddress

theorem code_of_parse {fault : Fault} (hparse : parse uri = .error fault) :
    fault.code = .resolve := by
  rw [parse] at hparse
  split at hparse
  · cases hparse
    rfl
  · split at hparse
    · next hscheme =>
        cases hparse
        exact Scheme.code_of_parse hscheme
    · split at hparse
      · cases hparse
        rfl
      · cases hparse

-- What can be read is what has been written of an endpoint with an address, and it is read as that
-- endpoint. All else cannot be resolved.
theorem reading_inverts_writing :
    (∀ uri endpoint, parse uri = .ok endpoint ↔
      endpoint.address ≠ "" ∧ uri = endpoint.scheme.text ++ "://" ++ endpoint.address) ∧
    (∀ uri endpoint, parse uri = .ok endpoint ↔ endpoint.address ≠ "" ∧ endpoint.text = uri) ∧
    (∀ uri : String, (∃ fault, parse uri = .error fault ∧ fault.code = .resolve) ↔
      ¬ ∃ (scheme : Scheme) (address : String),
        address ≠ "" ∧ uri = scheme.text ++ "://" ++ address) ∧
    ∀ scheme address, parse (text ⟨scheme, address⟩) = .ok ⟨scheme, address⟩ ↔ address ≠ "" := by
  refine ⟨fun uri endpoint => ?_, fun uri endpoint => parse_eq_ok_iff, fun uri => ⟨?_, ?_⟩,
    fun scheme address => ?_⟩
  · rw [parse_eq_ok_iff, eq_comm (a := uri)]
    rfl
  · rintro ⟨fault, hparse, -⟩ ⟨scheme, address, haddress, rfl⟩
    have hread : parse (text ⟨scheme, address⟩) = .ok ⟨scheme, address⟩ := parse_text haddress
    cases hparse.symm.trans hread
  · intro hunwritten
    cases hparse : parse uri with
    | error fault => exact ⟨fault, rfl, code_of_parse hparse⟩
    | ok endpoint =>
        obtain ⟨haddress, htext⟩ := of_parse hparse
        exact absurd ⟨endpoint.scheme, endpoint.address, haddress, htext.symm⟩ hunwritten
  · rw [parse_eq_ok_iff]
    exact and_iff_left rfl

-- The first mark is the one that counts.
example : parse "tcp://a://b" = .ok ⟨.tcp, "a://b"⟩ := by rfl

end Endpoint

end FramedLines
