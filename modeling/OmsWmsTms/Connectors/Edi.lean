import OmsWmsTms.Data.Dict
import OmsWmsTms.Data.Unicode

/-!
# EDIFACT messages

`OracleEDIConnector` of `src/models/erp_connector.py`: a text is cut at its apostrophes into
segments, and a segment at its plus signs into a tag and elements; nothing is escaped.

* `MessageType`, `ErpMessage` : the internal messages.
* `pieces` : the segments of a text, as they are written.
* `OracleEdiConnector.parse`, `serialize` : reading a text, and writing one.
* `pieces_serialize` : the segments of what is written.
-/

namespace OmsWmsTms

namespace Connectors

/-! ### Messages -/

/-- `MessageType`. -/
inductive MessageType
  | orders | ordinr | ordresp | desadv | deljrn | invoic | cusord
deriving DecidableEq

namespace MessageType

/-- The value of a member. -/
def value : MessageType → String
  | orders => "ORDERS"
  | ordinr => "ORDINR"
  | ordresp => "ORDRESP"
  | desadv => "DESADV"
  | deljrn => "DELJRN"
  | invoic => "INVOIC"
  | cusord => "CUSORD"

/-- `MessageType(text)`, which raises a `ValueError` otherwise. -/
def ofValue? (text : String) : Option MessageType :=
  [orders, ordinr, ordresp, desadv, deljrn, invoic, cusord].find? fun msgType =>
    msgType.value = text

theorem ofValue?_value (msgType : MessageType) : ofValue? msgType.value = some msgType := by
  cases msgType <;> rfl

end MessageType

/-- A segment. -/
structure Segment where
  tag : String
  elements : List String
deriving DecidableEq

/-- The payload of a message: the list that `parse` puts under `segments`, and its texts. -/
structure EdiPayload where
  segments : List Segment := []
  texts : Dict String String := .empty

/-- `ERPMessage`. -/
structure ErpMessage where
  msgType : MessageType
  senderId : String
  receiverId : String
  payload : EdiPayload

/-- `OracleEDIConnector`. -/
structure OracleEdiConnector where
  tradingPartnerId : Option String

/-! ### Reading -/

/-- The pieces of a text between its apostrophes, stripped, without the empty ones. -/
def piecesOf (text : List Char) : List (List Char) :=
  ((text.splitOn '\'').map (Text.stripBy Text.isUnicodeSpace)).filter (· ≠ [])

/-- The segments of a text. -/
def pieces (rawEdifact : List Char) : List (List Char) :=
  piecesOf (Text.stripBy Text.isUnicodeSpace rawEdifact)

/-- The tag and the elements of a segment. -/
def parseSegment (segment : List Char) : Segment :=
  let parts := segment.splitOn '+'
  { tag := String.ofList (parts.headD []), elements := parts.tail.map String.ofList }

/-- The text of the message type in the elements of `UNH`. -/
def msgTypeStr : List String → String
  | _ :: element :: _ => String.ofList ((element.toList.splitOn ':').headD [])
  | _ => "ORDERS"

/-- The message type after a segment. -/
def Segment.msgType (current : MessageType) (segment : Segment) : MessageType :=
  if segment.tag = "UNH" then
    (MessageType.ofValue? (msgTypeStr segment.elements)).getD current
  else current

namespace OracleEdiConnector

/-- `self.trading_partner_id or "EDI_TRADING"`. -/
def senderId (connector : OracleEdiConnector) : String :=
  match connector.tradingPartnerId with
  | some id => if id = "" then "EDI_TRADING" else id
  | none => "EDI_TRADING"

/-- **`parse`.** -/
def parse (connector : OracleEdiConnector) (rawEdifact : String) : ErpMessage :=
  let segments := (pieces rawEdifact.toList).map parseSegment
  { msgType := segments.foldl Segment.msgType .orders
    senderId := connector.senderId
    receiverId := "WMS"
    payload := { segments } }

end OracleEdiConnector

/-! ### Writing -/

/-- The interchange header. -/
def unb (msg : ErpMessage) : String := "UNB+UNOA:2+" ++ msg.senderId ++ "+" ++ msg.receiverId

/-- The message header. -/
def unh (msg : ErpMessage) : String := "UNH+1+" ++ msg.msgType.value ++ ":D:2.1:UN:EDIFACT"

/-- The segments of the payload. -/
def entrySegments (payload : EdiPayload) : List String :=
  (payload.texts.items.filter fun entry => entry.1 ≠ "segments").map fun entry =>
    entry.1 ++ "+" ++ entry.2

/-- **`serialize`.** -/
def serialize (msg : ErpMessage) : String :=
  "'".intercalate ([unb msg, unh msg] ++ entrySegments msg.payload ++ ["UNT+2+1", "UNZ+1+1"]) ++ "'"

/-! ### Pieces -/

theorem piecesOf_append (a b : List Char) :
    piecesOf (a ++ '\'' :: b) = piecesOf a ++ piecesOf b := by
  simp only [piecesOf, List.splitOn_append_cons_self, List.map_append, List.filter_append]

/-- A text that is not blank has a piece. -/
theorem piecesOf_ne_nil {text : List Char} {c : Char} (hmem : c ∈ text) (hc : c ≠ '\'')
    (hspace : Text.isUnicodeSpace c = false) : piecesOf text ≠ [] := by
  have hjoin : ['\''].intercalate (text.splitOn '\'') = text := List.intercalate_splitOn '\''
  obtain ⟨piece, hpiece, hcpiece⟩ : ∃ piece ∈ text.splitOn '\'', c ∈ piece := by
    rw [← hjoin] at hmem
    generalize text.splitOn '\'' = parts at hmem
    induction parts with
    | nil => cases hmem
    | cons part parts ih =>
      cases parts with
      | nil =>
        rw [List.intercalate_singleton] at hmem
        exact ⟨part, List.mem_singleton.2 rfl, hmem⟩
      | cons next parts =>
        rw [List.intercalate_cons_cons, List.append_assoc, List.mem_append, List.mem_append,
          List.mem_singleton] at hmem
        rcases hmem with hmem | rfl | hmem
        · exact ⟨part, List.mem_cons_self, hmem⟩
        · exact absurd rfl hc
        · obtain ⟨piece, hpiece, hcpiece⟩ := ih hmem
          exact ⟨piece, List.mem_cons_of_mem _ hpiece, hcpiece⟩
  have hstripped := Text.mem_stripBy hcpiece hspace
  refine List.ne_nil_of_mem (List.mem_filter.2 ⟨List.mem_map_of_mem hpiece, ?_⟩)
  exact decide_eq_true (List.ne_nil_of_mem hstripped)

/-- The pieces of some segments with an apostrophe behind each. -/
theorem piecesOf_flatMap (segments : List String) :
    piecesOf (segments.flatMap fun segment => segment.toList ++ ['\'']) =
      segments.flatMap fun segment => piecesOf segment.toList := by
  induction segments with
  | nil => rfl
  | cons segment segments ih =>
    rw [List.flatMap_cons, List.flatMap_cons, List.append_assoc, List.singleton_append,
      piecesOf_append, ih]

theorem toList_intercalate_append (segments : List String) (h : segments ≠ []) :
    ("'".intercalate segments ++ "'").toList =
      segments.flatMap fun segment => segment.toList ++ ['\''] := by
  have hquote : "'".toList = ['\''] := rfl
  rw [String.toList_append, String.toList_intercalate, hquote]
  induction segments with
  | nil => exact absurd rfl h
  | cons segment segments ih =>
    cases segments with
    | nil => simp
    | cons next segments =>
      rw [List.map_cons, List.map_cons, List.intercalate_cons_cons, List.append_assoc,
        List.flatMap_cons, ← ih (List.cons_ne_nil _ _), List.map_cons]

/-- A text that does not begin or end with white space is not stripped. -/
theorem stripBy_eq_self {p : Char → Bool} {c c' : Char} (text : List Char) (hc : p c = false)
    (hc' : p c' = false) : Text.stripBy p (c :: text ++ [c']) = c :: text ++ [c'] := by
  simp [Text.stripBy, hc, hc']

theorem piecesOf_unt : piecesOf "UNT+2+1".toList = ["UNT+2+1".toList] := by
  simp only [String.reduceToList]
  decide

theorem piecesOf_unz : piecesOf "UNZ+1+1".toList = ["UNZ+1+1".toList] := by
  simp only [String.reduceToList]
  decide

theorem piecesOf_unh (msg : ErpMessage) : piecesOf (unh msg).toList = [(unh msg).toList] := by
  unfold unh
  cases msg.msgType <;>
    simp only [MessageType.value, String.toList_append, String.reduceToList] <;> decide

theorem parseSegment_unh (msg : ErpMessage) : parseSegment (unh msg).toList =
    { tag := "UNH", elements := ["1", msg.msgType.value ++ ":D:2.1:UN:EDIFACT"] } := by
  unfold unh
  cases msg.msgType <;>
    simp only [MessageType.value, String.toList_append, String.reduceToList] <;> rfl

/-- **The segments of what is written**, as they are read. -/
theorem pieces_serialize (msg : ErpMessage) : pieces (serialize msg).toList =
    piecesOf (unb msg).toList ++ [(unh msg).toList] ++
      (entrySegments msg.payload).flatMap (fun segment => piecesOf segment.toList) ++
        ["UNT+2+1".toList, "UNZ+1+1".toList] := by
  have htext : (serialize msg).toList = ([unb msg, unh msg] ++ entrySegments msg.payload ++
      ["UNT+2+1", "UNZ+1+1"]).flatMap fun segment => segment.toList ++ ['\''] :=
    toList_intercalate_append _ (List.cons_ne_nil _ _)
  -- it begins with a letter and ends with an apostrophe
  obtain ⟨text, htext'⟩ : ∃ text, (serialize msg).toList = 'U' :: text ++ ['\''] := by
    rw [htext]
    refine ⟨"NB+UNOA:2+".toList ++ msg.senderId.toList ++ '+' :: msg.receiverId.toList ++
      '\'' :: (unh msg).toList ++ '\'' :: (entrySegments msg.payload).flatMap
        (fun segment => segment.toList ++ ['\'']) ++ "UNT+2+1'UNZ+1+1".toList, ?_⟩
    simp [unb]
  have hstrip : pieces (serialize msg).toList = piecesOf (serialize msg).toList := by
    rw [pieces, htext', stripBy_eq_self text (by decide) (by decide)]
  rw [hstrip, htext, piecesOf_flatMap]
  simp only [List.flatMap_append, List.flatMap_cons, List.flatMap_nil, List.append_nil,
    piecesOf_unh, piecesOf_unt, piecesOf_unz, List.append_assoc, List.cons_append,
    List.nil_append]

end Connectors

end OmsWmsTms
