import WmsDu.Billing.Schema

/-!
# Importing a carrier's bill

The rows of an uploaded sheet are read one by one; a row that cannot be read
is reported and the others are kept. The rows kept are then merged into
`carrier_bill_items`, column by column where the tracking number is already
there.
-/

namespace WmsDu

/-! ## Reading the sheet -/

/-- What ends the reading of a row: a `ValueError`, which is reported, or
anything else, which ends the import. -/
inductive RowFailure
  | value (message : String)
  | crash (e : Err)
deriving DecidableEq

/-- An exception no one catches. -/
def invalidOperation : Err := .runtimeError "decimal.InvalidOperation"

/-- `str(value)`, `none` for `None`. -/
def Cell.printed : Cell → Option String
  | .blank => none
  | .text s => some s
  | .number s => some s
  | .time _ s => some s

/-- `_to_clean_str`. -/
def toCleanStr (value : Cell) : Option String := cleanText value.printed

/-- `_to_decimal`. -/
def toDecimal (value : Cell) (fieldLabel : String) : Except RowFailure (Option Decimal) :=
  match value with
  | .blank => .ok none
  | .number s => do
      let d ← demandSome (Decimal.ofText s) (.crash invalidOperation)
      pure (some d)
  | .text s | .time _ s =>
      if strip s = "" then .ok none
      else do
        let d ← demandSome (Decimal.ofText (strip s)) (.value (fieldLabel ++ " 不是合法数字"))
        pure (some d)

/-- `_to_datetime`; `readTime` is `strptime` over the listed formats and then
`fromisoformat`. -/
def toDatetime (readTime : String → Option Timestamp) (value : Cell) (fieldLabel : String) :
    Except RowFailure (Option Timestamp) :=
  match value with
  | .blank => .ok none
  | .time t _ => .ok (some t)
  | .text s | .number s =>
      if strip s = "" then .ok none
      else do
        let t ← demandSome (readTime (strip s)) (.value (fieldLabel ++ " 不是合法时间"))
        pure (some t)

/-- `_is_blank_row`. -/
def isBlankRow (values : List Cell) : Bool :=
  values.all fun
    | .blank => true
    | .text s => strip s = ""
    | _ => false

/-- `d[k] = v` of a `dict`. -/
def dictSet (d : List (String × Cell)) (k : String) (v : Cell) : List (String × Cell) :=
  if k ∈ d.map (·.1) then d.map fun e => if e.1 = k then (k, v) else e else d ++ [(k, v)]

/-- `d.get(k)`. -/
def dictGet (d : List (String × Cell)) (k : String) : Cell :=
  ((d.find? fun e => e.1 = k).map (·.2)).getD .blank

/-- The header texts; a column without one is named by its position. -/
def headersOf (headerRow : List Cell) : List String :=
  headerRow.mapIdx fun idx v => (toCleanStr v).getD ("__col_" ++ toString (idx + 1))

/-- The cells of a row under their headers. -/
def rawPayloadOf (headers : List String) (values : List Cell) : List (String × Cell) :=
  (headers.zipIdx.foldl (fun d (h, idx) => dictSet d h (values.getD idx .blank)) [])

/-- `float(x)` of an optional figure. -/
def toFloat? (x : Option Decimal) : Except RowFailure (Option Decimal) :=
  match x with
  | none => .ok none
  | some d => do
      let f ← demandSome d.toFloat (.value "cannot convert signaling NaN to float")
      pure (some f)

/-- One row of the sheet; the total of a row counts a missing amount as
zero. -/
def normalizeRow (readTime : String → Option Timestamp) (rawPayload : List (String × Cell)) :
    Except RowFailure (BillRow Decimal) := do
  let trackingNo ← demandSome (toCleanStr (dictGet rawPayload "运单号")) (.value "运单号为空")
  let businessTime ← toDatetime readTime (dictGet rawPayload "业务时间") "业务时间"
  let billingWeight ← toDecimal (dictGet rawPayload "结算重量") "结算重量"
  let freightAmount ← toDecimal (dictGet rawPayload "中转费/运费") "中转费/运费"
  let surchargeAmount ← toDecimal (dictGet rawPayload "附加费") "附加费"
  let freightDec := freightAmount.getD (.finite 0)
  let surchargeDec := surchargeAmount.getD (.finite 0)
  let totalAmount ← demandSome (freightDec.add surchargeDec) (.crash invalidOperation)
  let billingWeightKg ← toFloat? billingWeight
  let freight ← toFloat? freightAmount
  let surcharge ← toFloat? surchargeAmount
  let total ← toFloat? (some totalAmount)
  pure
    { trackingNo, businessTime
      destinationProvince := toCleanStr (dictGet rawPayload "目的省份")
      destinationCity := toCleanStr (dictGet rawPayload "目的城市")
      billingWeightKg
      freightAmount := freight
      surchargeAmount := surcharge
      totalAmount := total
      settlementObject := toCleanStr (dictGet rawPayload "结算对象")
      orderCustomer := toCleanStr (dictGet rawPayload "订单客户")
      senderName := toCleanStr (dictGet rawPayload "寄件人")
      networkName := toCleanStr (dictGet rawPayload "所属网点")
      sizeText := toCleanStr (dictGet rawPayload "长宽高")
      parentCustomer := toCleanStr (dictGet rawPayload "父客户")
      rawPayload }

structure BillImportRowError where
  rowNo : Nat
  message : String
deriving DecidableEq, Repr

/-- What is read from a sheet. -/
structure ParsedBill where
  validRows : List (BillRow Decimal) := []
  errors : List BillImportRowError := []
  skippedCount : Nat := 0

/-- The rows below the header, from row `rowNo` on. -/
def normalizeRows (readTime : String → Option Timestamp) (headers : List String) :
    Nat → List (List Cell) → Except Err ParsedBill
  | _, [] => .ok {}
  | rowNo, values :: rows =>
      if isBlankRow values then do
        let rest ← normalizeRows readTime headers (rowNo + 1) rows
        pure { rest with skippedCount := rest.skippedCount + 1 }
      else
        match normalizeRow readTime (rawPayloadOf headers values) with
        | .error (.crash e) => .error e
        | .error (.value message) => do
            let rest ← normalizeRows readTime headers (rowNo + 1) rows
            pure { rest with errors := { rowNo, message } :: rest.errors }
        | .ok row => do
            let rest ← normalizeRows readTime headers (rowNo + 1) rows
            pure { rest with validRows := row :: rest.validRows }

/-- `parse_and_normalize_carrier_bill_xlsx`, from the rows of the first
sheet. -/
def parseAndNormalizeCarrierBillXlsx (readTime : String → Option Timestamp) :
    List (List Cell) → Except Err ParsedBill
  | [] => .ok { errors := [{ rowNo := 1, message := "Excel 为空" }] }
  | headerRow :: rows => normalizeRows readTime (headersOf headerRow) 2 rows

end WmsDu
