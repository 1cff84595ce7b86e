import DocRoot.Exchange
import DocRoot.Proofs.Http.Response
import DocRoot.Proofs.Text.Alphabet
import Mathlib.Tactic.SplitIfs

/-!
# One line for each entry

No part of an entry can end a line. Numbers, dates and addresses are written in characters
of their own, a method, a target and a header that is shown hold no control character but
the tab, and JSON escapes what would break the line.
-/

set_option autoImplicit false

namespace DocRoot

/-- No character of the text ends a line. -/
def OneLine (s : String) : Prop := ∀ c ∈ s.toList, c ≠ '\n' ∧ c ≠ '\r'

instance (s : String) : Decidable (OneLine s) :=
  decidable_of_iff (s.toList.all (fun c => c != '\n' && c != '\r') = true) (by simp [OneLine])

namespace OneLine

variable {s u : String}

@[simp] theorem append_iff : OneLine (s ++ u) ↔ OneLine s ∧ OneLine u := Text.Over.append_iff

theorem ofList {cs : List Char} (h : ∀ c ∈ cs, c ≠ '\n' ∧ c ≠ '\r') :
    OneLine (String.ofList cs) :=
  Text.Over.ofList h

/-- Of the bytes of a text only two end a line. -/
theorem of_bytes (ok : UInt8 → Bool) (hlf : ok 0x0A = false) (hcr : ok 0x0D = false)
    (h : (utf8 s).all ok = true) : OneLine s := by
  have hfeed : '\n' ∉ s.toList := Text.not_mem_of_bytes (by decide) hlf h
  have hreturn : '\r' ∉ s.toList := Text.not_mem_of_bytes (by decide) hcr h
  exact fun c hc => ⟨fun he => hfeed (he ▸ hc), fun he => hreturn (he ▸ hc)⟩

theorem onDigits : Text.OnDigits fun c => c ≠ '\n' ∧ c ≠ '\r' := by decide

@[simp] theorem number (n : Nat) : OneLine (toString n) := Text.Over.number onDigits n

@[simp] theorem integer (n : Int) : OneLine (toString n) :=
  Text.Over.integer onDigits (by decide) n

theorem ite {p : Prop} [Decidable p] (hs : OneLine s) (hu : OneLine u) :
    OneLine (if p then s else u) :=
  Text.Over.ite hs hu

end OneLine

section Parts

@[simp] theorem Ip.oneLine_text (ip : Ip) : OneLine ip.text :=
  over_text OneLine.onDigits (by decide) (by decide) (by decide) (by decide) ip

@[simp] theorem Moment.oneLine_logText (t : Moment) : OneLine t.logText := by
  have hd := OneLine.onDigits
  have hday := over_padded hd 2 t.date.day
  have hmonth : OneLine (monthName t.date.month) := over_monthName (by decide) _
  have hyear : OneLine (yearText t.date.year) := over_yearText hd (by decide) (by decide) _
  have hclock : OneLine t.clock := over_clock hd (by decide) t
  have hoffset : OneLine (offsetText "" t.offset) :=
    over_offsetText hd (by decide) (by decide) (by decide) _
  refine Text.Over.append_iff.mpr ⟨?_, hoffset⟩
  simp only [Text.Over.append_iff]
  exact ⟨⟨⟨⟨⟨⟨⟨hday, by decide⟩, hmonth⟩, by decide⟩, hyear⟩, by decide⟩, hclock⟩, by decide⟩

theorem Binary64.oneLine_positional (digits : Nat) (exponent : Int) :
    OneLine (positional digits exponent) := by
  have hds := Text.Over.digits OneLine.onDigits 10 digits (by decide) (by decide)
  have hzero : ∀ n, ∀ c ∈ List.replicate n '0', c ≠ '\n' ∧ c ≠ '\r' := by
    intro n c hc
    obtain rfl := List.eq_of_mem_replicate hc
    decide
  unfold positional
  simp only
  split
  · refine .ofList (List.forall_mem_append.mpr ⟨hds, ?_⟩)
    split
    · simp
    · exact hzero _
  · have hall : ∀ n, ∀ c ∈ List.replicate n '0' ++ Nat.toDigits 10 digits,
        c ≠ '\n' ∧ c ≠ '\r' := fun n => List.forall_mem_append.mpr ⟨hzero n, hds⟩
    refine .ofList (List.forall_mem_append.mpr ⟨?_, List.forall_mem_cons.mpr ⟨by decide, ?_⟩⟩)
    · exact fun c hc => hall _ c (List.mem_of_mem_take hc)
    · exact fun c hc => hall _ c (List.mem_of_mem_drop hc)

theorem Binary64.oneLine_text (x : Binary64) : OneLine x.text := by
  cases x with
  | finite negative m e =>
    refine OneLine.append_iff.mpr ⟨.ite ?_ ?_, oneLine_positional _ _⟩
    · decide
    · decide
  | infinite negative => exact .ite (by decide) (by decide)
  | nan => decide

end Parts

namespace Json

theorem hexDigit_ne (n : Nat) (h : n < 16) : hexDigit n ≠ '\n' ∧ hexDigit n ≠ '\r' := by
  have all : ∀ k : Fin 16, hexDigit k ≠ '\n' ∧ hexDigit k ≠ '\r' := by decide
  exact all ⟨n, h⟩

theorem escapeChar_ne (c : Char) : ∀ d ∈ escapeChar c, d ≠ '\n' ∧ d ≠ '\r' := by
  have hhigh : c.toNat < 0x20 → _ := fun h => hexDigit_ne (c.toNat / 16) (by omega)
  have hlow := hexDigit_ne (c.toNat % 16) (Nat.mod_lt _ (by decide))
  unfold escapeChar
  split_ifs <;> simp_all

@[simp] theorem oneLine_quote (s : String) : OneLine (quote s) := by
  have hquote : '"' ≠ '\n' ∧ '"' ≠ '\r' := by decide
  refine .ofList (List.forall_mem_cons.mpr ⟨hquote, ?_⟩)
  rw [List.forall_mem_append]
  constructor
  · intro d hd
    obtain ⟨c, _, hc⟩ := List.mem_flatMap.mp hd
    exact escapeChar_ne c d hc
  · exact List.forall_mem_singleton.mpr hquote

mutual

/-- The text of a value is one line, whatever texts stand in it. -/
theorem oneLine_print : (x : Json) → OneLine x.print
  | .null => by decide
  | .bool b => .ite (by decide) (by decide)
  | .number n => .integer n
  | .real x => x.oneLine_text
  | .text s => oneLine_quote s
  | .array items => by
    simp only [print, OneLine.append_iff, oneLine_printItems items, and_true]
    decide
  | .object fields => by
    simp only [print, OneLine.append_iff, oneLine_printFields fields, and_true]
    decide

theorem oneLine_printItems : (items : List Json) → OneLine (printItems items)
  | [] => by decide
  | [x] => oneLine_print x
  | x :: y :: r => by
    simp only [printItems, OneLine.append_iff, oneLine_print x, oneLine_printItems (y :: r),
      true_and, and_true]
    decide

theorem oneLine_printFields : (fields : List (String × Json)) → OneLine (printFields fields)
  | [] => by decide
  | [(k, x)] => by
    simp only [printFields, OneLine.append_iff, oneLine_quote, oneLine_print x, true_and, and_true]
    decide
  | (k, x) :: f :: r => by
    simp only [printFields, OneLine.append_iff, oneLine_quote, oneLine_print x,
      oneLine_printFields (f :: r), true_and, and_true]
    decide

end

end Json

namespace AccessLog.Entry

variable {e : Entry}

/-- A line is one line if the texts are that it shows as they are. -/
theorem oneLine_line (hremote : OneLine e.remote) (hmethod : OneLine e.method)
    (htarget : OneLine e.target) (hreferer : ∀ s, e.referer = some s → OneLine s)
    (hagent : ∀ s, e.userAgent = some s → OneLine s) (format : Format) :
    OneLine (e.line format) := by
  have hversion : ∀ v : Http.Version, OneLine v.label := by
    intro v
    cases v <;> decide
  have hrequest : OneLine e.requestLine := by
    simp only [requestLine, OneLine.append_iff, hmethod, htarget, hversion, true_and, and_true]
    decide
  have hsize : OneLine e.sizeText := .ite (by decide) (.number _)
  have hcommon : OneLine e.common := by
    simp only [common, OneLine.append_iff, hremote, Moment.oneLine_logText, hrequest,
      OneLine.number, hsize, true_and, and_true]
    decide
  have hshown : ∀ x : Option String, (∀ s, x = some s → OneLine s) → OneLine (x.getD "-") := by
    intro x hx
    cases x with
    | none => decide
    | some s => exact hx s rfl
  cases format with
  | common => exact hcommon
  | json => exact e.toJson.oneLine_print
  | combined =>
    simp only [line, combined, OneLine.append_iff, hcommon, hshown _ hreferer, hshown _ hagent,
      true_and, and_true]
    decide

end AccessLog.Entry

end DocRoot
