import CancellationPolicy.Rule.Basic

/-! # Shipped rules

The rules that are used unless others are given. They are written for canonical
texts, in upper case.
-/

namespace CancellationPolicy.RuleSet

/-- The data of a shipped rule: id, priority, pattern, and fields with their
expressions. -/
abbrev Shipped := String × Int × String × List (String × String)

/-- The data of the shipped rules. -/
def shippedRules : List Shipped := [
  ("non_refundable", 100,
    r"\bNON[- ]?REFUNDABLE\b|\bNO REFUNDS?\b",
    [("fee.percent", "100"), ("fee.type", "percentage_or_nrf"), ("policy.cancellable", "false")]),
  ("deadline_iso", 95,
    r"\b(?P<iso>\d{4}-\d{2}-\d{2}T\d{2}:\d{2}(?::\d{2})?(?:Z|[+-]\d{2}:?\d{2})?)",
    [("deadline.iso", "$iso")]),
  ("free_cancel_days", 90,
    r"\bFREE(?: OF CHARGE)? CANCELL?ATION (?:IS ALLOWED )?(?:UNTIL|UP TO|UP UNTIL) " ++
      r"(?P<days>\d{1,3}) DAYS? (?:PRIOR TO|BEFORE) (?:THE )?(?:ARRIVAL|CHECK-?IN)",
    [("window.cutoff_days", "$days"), ("window.type", "relative_to_arrival")]),
  ("deadline_local_time", 85,
    r"\b(?:BEFORE|UNTIL|BY) (?P<hh>\d{1,2}):(?P<mm>\d{2}) (?:HOTEL LOCAL TIME |LOCAL TIME )?" ++
      r"(?:ON )?(?P<date>\d{2}[A-Z]{3}\d{2})\b",
    [("deadline.absolute_hotel_time", "true"), ("deadline.date_ddmmmyy", "$date"),
      ("deadline.local_hour", "$hh"), ("deadline.local_minute", "$mm")]),
  ("cancel_days_before", 82,
    r"\bCANCELL?(?:ED|ATIONS?)? (?:MADE |RECEIVED )?(?:WITHIN|LESS THAN) " ++
      r"(?P<days>\d{1,3}) DAYS? (?:PRIOR TO|BEFORE) (?:THE )?(?:ARRIVAL|CHECK-?IN)",
    [("window.cutoff_days", "$days"), ("window.type", "relative_to_arrival")]),
  ("cancel_hours_before", 80,
    r"\b(?P<hours>\d{1,3}) ?(?:HOURS?|HRS?) (?:PRIOR TO|BEFORE) (?:THE )?(?:ARRIVAL|CHECK-?IN)",
    [("window.cutoff_days", "ceil($hours/24)"), ("window.cutoff_hours", "$hours"),
      ("window.type", "relative_to_arrival")]),
  ("fee_percent_of_stay", 70,
    r"\b(?P<pct>\d{1,3}(?:\.\d+)?) ?% (?:OF THE |OF )(?:TOTAL )?" ++
      r"(?:STAY|BOOKING|RESERVATION|ROOM RATE|AMOUNT)",
    [("fee.percent", "$pct"), ("fee.type", "percentage")]),
  ("fee_nights", 65,
    r"\b(?:(?P<nights>\d{1,2}) NIGHTS?|(?P<first>FIRST) NIGHT)(?:'S)? (?:ROOM )?" ++
      r"(?:PENALTY|CHARGE|FEE|RATE|STAY)",
    [("fee.nights", "$nights or 1"), ("fee.type", "nights_penalty")]),
  ("fee_fixed_amount", 60,
    r"\b(?:FEE|PENALTY|CHARGE) OF (?:(?P<cur>[A-Z]{3}) ?(?P<amt>\d[\d,]*(?:\.\d{1,2})?)|" ++
      r"(?P<amt2>\d[\d,]*(?:\.\d{1,2})?) ?(?P<cur2>[A-Z]{3}))\b",
    [("fee.amount", "$amt or $amt2"), ("fee.currency", "$cur or $cur2"), ("fee.type",
      "fixed_amount")]),
  ("fee_full_stay", 55,
    r"\b(?:FULL|ENTIRE|TOTAL) (?:STAY|AMOUNT|BOOKING|RESERVATION)(?: AMOUNT)? " ++
      r"(?:WILL BE |IS )?(?:CHARGED|NON-?REFUNDABLE)|\bCHARGED (?:FOR )?THE " ++
      r"(?:FULL|ENTIRE|TOTAL) (?:STAY|AMOUNT|BOOKING)",
    [("fee.type", "full_stay")]),
  ("special_window", 50,
    r"\b(?:GROUP|SPECIAL EVENT|PEAK SEASON) (?:BOOKINGS? |RESERVATIONS? )?" ++
      r"(?:MUST BE )?CANCELL?ED (?P<days>\d{1,3}) (?P<unit>DAYS?|WEEKS?) (?:PRIOR|BEFORE)",
    [("special_window.cutoff_days", "$days"), ("special_window.unit", "$unit")]),
  ("tax_excluded", 40,
    r"\b(?:EXCLUDING|EXCLUSIVE OF|EXCL\.?|PLUS) (?:ALL )?(?:TAX(?:ES)?|VAT)(?: AND FEES)?",
    [("fee.tax_scope", "excluded")]),
  ("tax_included", 39,
    r"\b(?:INCLUDING|INCLUSIVE OF|INCL\.?) (?:ALL )?(?:TAX(?:ES)?|VAT)(?: AND FEES)?",
    [("fee.tax_scope", "included")]),
  ("per_room", 30,
    r"\bPER ROOM\b",
    [("fee.per_room", "true")]),
  ("no_show", 20,
    r"\bNO[- ]SHOWS?\b",
    [("policy.no_show_charged", "true")])]

/-- The shipped rules. -/
def shipped? : Except Rule.Error RuleSet := do
  let rules ← shippedRules.mapM fun (id, priority, source, fields) =>
    Rule.build id priority source (some (fields.map fun (path, e) => Rule.Field.ofTemplate path e))
  return (← RuleSet.ofRules rules).withVersion "v1"

end CancellationPolicy.RuleSet
