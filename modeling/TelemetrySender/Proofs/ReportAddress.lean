import Mathlib.Data.List.DropRight
import TelemetrySender.Endpoint.Report

/-!
Addresses for reports, as texts.  What stands in front of `/report` in an address is the stem of the
server: the server without the slashes at its end, then without one `/report` there, then without
slashes again.  Two servers have the same addresses exactly if they have the same stem.
-/

set_option autoImplicit false
set_option relaxedAutoImplicit false

namespace TelemetrySender.Endpoint

def slashes (n : Nat) : List Char := List.replicate n '/'

def withoutReport (s : List Char) : List Char :=
  if "/report".toList <:+ s then s.rdrop "/report".length else s

/-- What a server is told by. -/
def stem (server : List Char) : List Char :=
  (withoutReport (server.rdropWhile (· = '/'))).rdropWhile (· = '/')

/-- What is cut off from a server: slashes, and one `/report` among them if it stands at the end. -/
inductive Cut (server : List Char) : List Char → Prop where
  | padded (n : Nat) : ¬ "/report".toList <:+ trimSlashes server → Cut server (slashes n)
  | reported (m n : Nat) : "/report".toList <:+ trimSlashes server →
      Cut server (slashes m ++ "/report".toList ++ slashes n)

section Slashes

theorem trimSlashes_eq_rdropWhile (s : List Char) : trimSlashes s = s.rdropWhile (· = '/') := rfl

theorem getLast?_trimSlashes (s : List Char) : (trimSlashes s).getLast? ≠ some '/' := by
  intro last
  rw [trimSlashes, List.getLast?_reverse] at last
  have first := List.head?_dropWhile_not (· == '/') s.reverse
  rw [last] at first
  cases first

theorem trimSlashes_of_getLast? {s : List Char} (last : s.getLast? ≠ some '/') :
    trimSlashes s = s := by
  rcases List.eq_nil_or_concat s with rfl | ⟨front, c, rfl⟩
  · rfl
  · rw [List.concat_eq_append, List.getLast?_concat] at last
    rw [List.concat_eq_append, trimSlashes_eq_rdropWhile]
    apply List.rdropWhile_concat_neg
    intro slash
    exact last (congrArg some (of_decide_eq_true slash))

theorem trimSlashes_append_slashes (s : List Char) (n : Nat) :
    trimSlashes (s ++ slashes n) = trimSlashes s := by
  induction n with
  | zero => rw [slashes, List.replicate_zero, List.append_nil]
  | succ n ih =>
    rw [slashes, List.replicate_succ', ← List.append_assoc, trimSlashes_eq_rdropWhile,
      List.rdropWhile_concat_pos _ _ _ (by simp)]
    exact ih

theorem exists_trimSlashes (s : List Char) : ∃ n, s = trimSlashes s ++ slashes n := by
  have row : s.rtakeWhile (· = '/') = slashes (s.rtakeWhile (· = '/')).length := by
    apply List.eq_replicate_of_mem
    intro c member
    have slash := List.mem_rtakeWhile_imp member
    exact of_decide_eq_true slash
  refine ⟨(s.rtakeWhile (· = '/')).length, ?_⟩
  rw [← row]
  exact List.rdropWhile_append_rtakeWhile.symm

end Slashes

section Base

theorem stripReport_of_not_suffix {s : List Char} (other : ¬ "/report".toList <:+ s) :
    stripReport s = s := by
  rw [stripReport, if_neg]
  rw [List.isSuffixOf_iff_suffix]
  exact other

theorem stripReport_append (s : List Char) : stripReport (s ++ "/report".toList) = trimSlashes s := by
  have suffix : reportSuffix.isSuffixOf (s ++ reportSuffix) = true :=
    List.isSuffixOf_iff_suffix.mpr (List.suffix_append s reportSuffix)
  change stripReport (s ++ reportSuffix) = trimSlashes s
  rw [stripReport, if_pos suffix, List.length_append, Nat.add_sub_cancel, List.take_left]

theorem base_append_slashes (s : List Char) (n : Nat) : base (s ++ slashes n) = base s := by
  rw [base, trimSlashes_append_slashes, base]

theorem base_append_report (s : List Char) (n : Nat) :
    base (s ++ "/report".toList ++ slashes n) = trimSlashes s := by
  have last : (s ++ "/report".toList).getLast? ≠ some '/' := by
    rw [List.getLast?_append_of_ne_nil _ (by decide)]
    decide
  rw [base_append_slashes, base, trimSlashes_of_getLast? last, stripReport_append]

theorem getLast?_base (s : List Char) : (base s).getLast? ≠ some '/' := by
  by_cases suffix : "/report".toList <:+ trimSlashes s
  · obtain ⟨front, shape⟩ := suffix
    rw [base, ← shape, stripReport_append]
    exact getLast?_trimSlashes front
  · rw [base, stripReport_of_not_suffix suffix]
    exact getLast?_trimSlashes s

theorem Cut.mem_report {server cut : List Char} (cuts : Cut server cut) {c : Char}
    (member : c ∈ cut) : c ∈ "/report".toList := by
  have slash {n : Nat} (here : c ∈ slashes n) : c ∈ "/report".toList := by
    rw [List.eq_of_mem_replicate here]
    decide
  cases cuts with
  | padded n => exact slash member
  | reported m n =>
    rw [List.mem_append, List.mem_append] at member
    rcases member with (front | inner) | later
    · exact slash front
    · exact inner
    · exact slash later

theorem exists_cut (s : List Char) : ∃ cut, s = base s ++ cut ∧ Cut s cut := by
  obtain ⟨n, whole⟩ := exists_trimSlashes s
  by_cases suffix : "/report".toList <:+ trimSlashes s
  · obtain ⟨front, shape⟩ := suffix
    obtain ⟨m, inner⟩ := exists_trimSlashes front
    refine ⟨slashes m ++ "/report".toList ++ slashes n, ?_, .reported m n ⟨front, shape⟩⟩
    rw [base, ← shape, stripReport_append, ← List.append_assoc, ← List.append_assoc, ← inner, shape]
    exact whole
  · refine ⟨slashes n, ?_, .padded n suffix⟩
    rw [base, stripReport_of_not_suffix suffix]
    exact whole

theorem base_eq_trimSlashes_iff (s : List Char) :
    base s = trimSlashes s ↔ ¬ "/report".toList <:+ trimSlashes s := by
  constructor
  · rintro same ⟨front, shape⟩
    obtain ⟨m, inner⟩ := exists_trimSlashes front
    rw [base, ← shape, stripReport_append] at same
    have lengths := congrArg List.length same
    have shorter := congrArg List.length inner
    rw [List.length_append] at lengths shorter
    have seven : "/report".toList.length = 7 := by decide
    omega
  · exact stripReport_of_not_suffix

theorem base_eq_stem (s : List Char) : base s = stem s := by
  rw [stem, withoutReport, ← trimSlashes_eq_rdropWhile, ← trimSlashes_eq_rdropWhile]
  split
  · rename_i suffix
    obtain ⟨front, shape⟩ := suffix
    rw [base, ← shape, stripReport_append]
    congr 1
    have seven : "/report".length = "/report".toList.length := rfl
    rw [List.rdrop, List.length_append, seven, Nat.add_sub_cancel, List.take_left]
  · rename_i other
    rw [base, stripReport_of_not_suffix other, trimSlashes_of_getLast? (getLast?_trimSlashes s)]

end Base

theorem toList_reportUrl (server format : String) : (reportUrl server format).toList =
    base server.toList ++ "/report?f=".toList ++ format.toList := by
  rw [reportUrl, String.toList_ofList]

theorem reportUrl_inj (s t format : String) :
    reportUrl s format = reportUrl t format ↔ base s.toList = base t.toList := by
  rw [← String.toList_inj, toList_reportUrl, toList_reportUrl, List.append_left_inj,
    List.append_left_inj]

/-- Which servers have the same addresses, and what these look like. -/
structure Normalises : Prop where
  padded : ∀ (s : String) (n : Nat) (format : String),
    reportUrl (s ++ String.ofList (slashes n)) format = reportUrl s format
  reported : ∀ (s : String) (n : Nat) (format : String),
    reportUrl (s ++ "/report" ++ String.ofList (slashes n)) format = reportUrl s format ↔
      ¬ "/report".toList <:+ s.toList.rdropWhile (· = '/')
  front : ∀ s format : String, ∃ front : String,
    reportUrl s format = front ++ "/report?f=" ++ format ∧ front.toList.getLast? ≠ some '/'
  same : ∀ s t format : String,
    reportUrl s format = reportUrl t format ↔ stem s.toList = stem t.toList

/-- Servers share their addresses exactly if they are the same but for what is cut off. -/
theorem reportUrl_normalises : Normalises where
  padded s n format := by
    rw [reportUrl_inj, String.toList_append, String.toList_ofList, base_append_slashes]
  reported s n format := by
    rw [reportUrl_inj, String.toList_append, String.toList_append,
      String.toList_ofList (l := slashes n), base_append_report, eq_comm]
    exact base_eq_trimSlashes_iff s.toList
  front s format := by
    refine ⟨String.ofList (base s.toList), ?_, ?_⟩
    · rw [← String.toList_inj, toList_reportUrl, String.toList_append, String.toList_append,
        String.toList_ofList (l := base s.toList)]
    · rw [String.toList_ofList]
      exact getLast?_base s.toList
  same s t format := by
    rw [reportUrl_inj, base_eq_stem, base_eq_stem]

end TelemetrySender.Endpoint
