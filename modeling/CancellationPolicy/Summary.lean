import CancellationPolicy.Record.Basic
import CancellationPolicy.Record.FeeType

/-! # Summaries

A summary says in one or two sentences, in English and in Chinese, until when a
booking can be cancelled free of charge and what a later cancellation costs.
Clauses for which the record holds nothing are left out. A policy that excludes
cancellation has a sentence of its own.
-/

namespace CancellationPolicy

/-- The same statement in two languages. -/
structure Summary where
  /-- The English text. -/
  english : String
  /-- The Chinese text. -/
  chinese : String
  deriving DecidableEq, Repr

namespace Summary

/-- What a field shows, if it holds something. -/
def shown? (r : Record) (path : String) : Option String :=
  match r.get? path with
  | some v => if v.isEmpty then none else some v.display
  | none => none

/-- A number with a zero in front if it has one character. -/
def twoPlaces (n : Decimal) : String :=
  let s := n.normalize.toText
  String.ofList (List.replicate (2 - s.length) '0') ++ s

/-- The time of day of a deadline; without an hour, the last minute of the day. -/
def localTime (r : Record) : String :=
  match r.number? "deadline.local_hour", r.number? "deadline.local_minute" with
  | some h, some m => twoPlaces h ++ ":" ++ twoPlaces m
  | some h, none => twoPlaces h ++ ":00"
  | none, _ => (shown? r "deadline.local_hour").getD "23:59"

/-- Until when cancellation is free. -/
def cutoff? (r : Record) : Option Summary :=
  match shown? r "deadline.iso" with
  | some iso => some ⟨"until " ++ iso, "至 " ++ iso⟩
  | none =>
    match shown? r "deadline.date_ddmmmyy" with
    | some date =>
      let time := localTime r
      some ⟨"until " ++ time ++ " on " ++ date ++ " (hotel local time)",
        "至 " ++ date ++ " " ++ time ++ "（酒店当地时间）"⟩
    | none =>
      match shown? r "window.cutoff_days" with
      | some days =>
        some ⟨"until " ++ days ++ " day(s) before arrival", "入住前 " ++ days ++ " 天之前"⟩
      | none => none

/-- A text without blanks at its ends. -/
def trimmed (s : String) : String := String.ofList (Text.trim s.toList)

/-- What a cancellation costs, by the type of the fee and without taxes. -/
def feeByType? (r : Record) (type : String) : Option Summary :=
  if type = "fixed_amount" then
    let amount := (shown? r "fee.amount").getD ""
    let currency := (shown? r "fee.currency").getD ""
    let perRoom := r.text? "fee.per_room" == some "true"
    some ⟨trimmed (amount ++ " " ++ currency) ++ (if perRoom then " per room" else ""),
      trimmed (currency ++ " " ++ amount) ++ (if perRoom then " 每间客房" else "")⟩
  else if type = "nights_penalty" then
    let nights := (shown? r "fee.nights").getD "1"
    some ⟨nights ++ " night penalty", "扣除 " ++ nights ++ " 晚房费"⟩
  else if type = "percentage" then
    match shown? r "fee.percent" with
    | some percent => some ⟨percent ++ "% of the stay", "房费的 " ++ percent ++ "%"⟩
    | none => none
  else if FeeType.fullStay.contains type then some ⟨"the full stay", "全额房费"⟩
  else none

/-- What is said about taxes. -/
def taxNote (r : Record) : Summary :=
  let scope := r.text? "fee.tax_scope"
  if scope = some "excluded" then ⟨" (excluding taxes/fees)", "（不含税费）"⟩
  else if scope = some "included" then ⟨" (including taxes/fees)", "（含税费）"⟩
  else ⟨"", ""⟩

/-- What a cancellation after the deadline costs. -/
def fee? (r : Record) : Option Summary :=
  match r.text? "fee.type" with
  | some type =>
    (feeByType? r type).map fun fee =>
      ⟨fee.english ++ (taxNote r).english, fee.chinese ++ (taxNote r).chinese⟩
  | none => none

/-- The sentence about free cancellation. -/
def cutoffSentence (c : Summary) : Summary :=
  ⟨"Free cancellation " ++ c.english ++ ".", "可免费取消，" ++ c.chinese ++ "。"⟩

/-- The sentence about the fee. -/
def feeSentence (f : Summary) : Summary :=
  ⟨"After the deadline, cancellation incurs a penalty of " ++ f.english ++ ".",
    "在截止时间之后取消，将收取 " ++ f.chinese ++ "。"⟩

/-- The summary of a booking that cannot be cancelled. -/
def nonRefundable : Summary :=
  ⟨"This booking is non-refundable and cannot be cancelled.", "此预订不可取消或退款。"⟩

/-- The summary of a record. -/
def ofRecord (r : Record) : Summary :=
  if r.text? "policy.cancellable" = some "false" then nonRefundable
  else
    let sentences := ((cutoff? r).map cutoffSentence).toList ++ ((fee? r).map feeSentence).toList
    ⟨" ".intercalate (sentences.map english), " ".intercalate (sentences.map chinese)⟩

end Summary

end CancellationPolicy
