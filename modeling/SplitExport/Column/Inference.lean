import SplitExport.Column.Defect
import SplitExport.Datum

/-!
# Inference — the kind that a column of some values has

* `Datum.settle` brings a value to the form that a column can hold: an integer beyond 128 bits is lost,
  and a decimal has at most 38 digits and no positive exponent.
* `Datum.kind` is the kind of a column that holds one value alone.
* `ColumnKind.join?` is the narrowest kind that can hold the values of two kinds, if there is one:
  `null` joins with every kind, integers and decimals widen, texts take in everything but octets.
* `inferKind` joins the kinds of all values.
-/

namespace SplitExport

open SplitExport.Calendar SplitExport.Number SplitExport.Text

/-! ## Words -/

/-- Whether an integer fits a signed word of a number of bits. -/
def fitsSigned (bits : Nat) (i : Int) : Bool :=
  -(Nat.pow 2 (bits - 1) : Int) ≤ i && i < (Nat.pow 2 (bits - 1) : Int)

/-- Whether an integer fits an unsigned word of a number of bits. -/
def fitsUnsigned (bits : Nat) (i : Int) : Bool :=
  0 ≤ i && i < (Nat.pow 2 bits : Int)

/-- The digits that a decimal in a column may have. -/
def decimalDigits : Nat := 38

/-- Whether a decimal in a column may have a size, counted in units of its last digit. -/
def fitsDecimal (digits : Nat) (units : Int) : Bool :=
  units.natAbs < Nat.pow 10 digits

namespace Datum

/-! ## Settling -/

/-- A decimal without a positive exponent; zero has no sign. -/
def settleDecimal (d : Decimal) : Except ColumnDefect Datum :=
  if decimalDigits < d.exponent.toNat then .error .oversizeDecimal
  else
    let size : Int := d.coefficient * Nat.pow 10 d.exponent.toNat
    if fitsDecimal decimalDigits size then
      .ok (.decimal (Decimal.ofUnits d.scale (if d.negative then -size else size)))
    else .error .oversizeDecimal

mutual

/-- The form of a value that a column can hold. -/
def settle : Datum → Except ColumnDefect Datum
  | .int i => .ok (if fitsSigned 128 i || fitsUnsigned 128 i then .int i else .null)
  | .decimal d => settleDecimal d
  | .special _ => .error .specialDecimal
  | .list items => (settleItems items).map .list
  | .record fields => (settleFields fields).map .record
  | other => .ok other

/-- The items of a list, settled. -/
def settleItems : List Datum → Except ColumnDefect (List Datum)
  | [] => .ok []
  | item :: rest => do return (← item.settle) :: (← settleItems rest)

/-- The fields of a record, settled. -/
def settleFields : List (String × Datum) → Except ColumnDefect (List (String × Datum))
  | [] => .ok []
  | (name, value) :: rest => do return (name, ← value.settle) :: (← settleFields rest)

end

end Datum

/-! ## Joining -/

namespace ColumnKind

/-- Whether a column holds numbers. -/
def isNumeric : ColumnKind → Bool
  | .float32 | .float64 | .decimal .. => true
  | other => other.isIntegral

/-- The kind that holds the values of two kinds, neither of them compound. -/
def joinPlain? (left right : ColumnKind) : Option ColumnKind :=
  if left = right then some left
  else
    match left, right with
    | .null, other | other, .null => some other
    | .binary, _ | _, .binary => none
    | .text, _ | _, .text => some .text
    | .boolean, other | other, .boolean => if other.isNumeric then some other else none
    | .float64, other | other, .float64 =>
      if other.isNumeric || other.isTemporal then some .float64 else none
    | .decimal digits scale, .decimal otherDigits otherScale =>
      some (.decimal (max digits otherDigits) (max scale otherScale))
    | .decimal digits scale, other | other, .decimal digits scale =>
      if other.isIntegral then some (.decimal digits scale) else none
    | .date, .moment unit zone | .moment unit zone, .date => some (.moment unit zone)
    | _, _ =>
      if left.isIntegral && right.isIntegral then some (.signed 128)
      else if (left.isIntegral || left.isTemporal) && (right.isIntegral || right.isTemporal) &&
          (left.isIntegral || right.isIntegral) then some (.signed 64)
      else none

mutual

/-- The kind that holds the values of two kinds. -/
def join? : ColumnKind → ColumnKind → Option ColumnKind
  | .list left, .list right => (left.join? right).map .list
  | .record left, .record right => (joinFields? left right).map .record
  | left, right => joinPlain? left right

/-- The fields of two records: those of the first one, and behind them what only the second one has. -/
def joinFields? : FieldKinds → FieldKinds → Option FieldKinds
  | .nil, others => some others
  | .cons name kind rest, others => do
    let joined ← match others.kind? name with
      | some other => kind.join? other
      | none => some kind
    return .cons name joined (← joinFields? rest (others.erase name))

end

/-- The kind that holds the values of two kinds, or their clash. -/
def join (left right : ColumnKind) : Except ColumnDefect ColumnKind :=
  match left.join? right with
  | some joined => .ok joined
  | none => .error (.incompatible left right)

end ColumnKind

/-! ## Kinds of values -/

mutual

/-- The kind of a column that holds a settled value alone. -/
def Datum.kind : Datum → Except ColumnDefect ColumnKind
  | .null => .ok .null
  | .bool _ => .ok .boolean
  | .int i =>
    .ok (if fitsSigned 64 i then .signed 64 else if fitsSigned 128 i then .signed 128 else .unsigned 128)
  | .float _ => .ok .float64
  | .decimal d => .ok (.decimal decimalDigits d.scale)
  | .special _ => .error .specialDecimal
  | .text _ => .ok .text
  | .bytes _ => .ok .binary
  | .date _ => .ok .date
  | .moment _ => .ok .plainMoment
  | .universal _ => .ok (.moment .microseconds (some "UTC"))
  | .time _ => .ok .time
  | .duration _ => .ok (.duration .microseconds)
  | .list items => (joinKinds .null items).map .list
  | .record fields => (fieldKinds fields).map .record

/-- The kind that holds the values of a kind and some values besides. -/
def joinKinds (known : ColumnKind) : List Datum → Except ColumnDefect ColumnKind
  | [] => .ok known
  | value :: rest => do joinKinds (← known.join (← value.kind)) rest

/-- The names and kinds of the fields of a record. -/
def fieldKinds : List (String × Datum) → Except ColumnDefect FieldKinds
  | [] => .ok .nil
  | (name, value) :: rest => do return .cons name (← value.kind) (← fieldKinds rest)

end

/-- The kind of a column of settled values. -/
def inferKind (values : List Datum) : Except ColumnDefect ColumnKind :=
  joinKinds .null values

end SplitExport
