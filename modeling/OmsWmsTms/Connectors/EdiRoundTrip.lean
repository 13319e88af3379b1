import OmsWmsTms.Connectors.Edi

/-!
# EDIFACT round trips

`serialize` writes `UNT+2+1` whatever the payload, and leaves out what `parse` has put under
`segments`; an apostrophe in an identifier opens a segment of its own.

* `RoundTrips` : what is written is read back, with the number of segments in `UNT`.
* `ediRoundTrips_iff` : that is so exactly for an empty payload and plain identifiers.
* `reparse` : a text that is read, written and read again keeps its message type only.
-/

namespace OmsWmsTms

namespace Connectors

/-! ### The header -/

theorem stripBy_append {p : Char → Bool} {c c' : Char} (text rest : List Char) (hc : p c = false)
    (hc' : p c' = false) : ∃ rest', Text.stripBy p (c :: text ++ c' :: rest) =
      c :: text ++ c' :: rest' := by
  refine ⟨(rest.reverse.dropWhile p).reverse, ?_⟩
  have hfront : (c :: text ++ c' :: rest).dropWhile p = c :: text ++ c' :: rest := by
    simp [hc]
  have hback : (rest.reverse ++ (c' :: (text.reverse ++ [c]))).dropWhile p =
      rest.reverse.dropWhile p ++ c' :: (text.reverse ++ [c]) := by
    rw [List.dropWhile_append]
    split_ifs with hempty
    · rw [List.isEmpty_iff.1 hempty]
      simp [hc']
    · rfl
  rw [Text.stripBy, hfront]
  have hreverse : (c :: text ++ c' :: rest).reverse =
      rest.reverse ++ (c' :: (text.reverse ++ [c])) := by simp
  rw [hreverse, hback]
  simp

/-- A header without an apostrophe is one segment, `UNB`. -/
theorem piecesOf_plain {rest : List Char} (h : '\'' ∉ rest) :
    ∃ piece, piecesOf ("UNB+UNOA:2+".toList ++ rest) = [piece] ∧
      (parseSegment piece).tag = "UNB" := by
  have hchars : "UNB+UNOA:2+".toList = 'U' :: "NB+UNOA:2".toList ++ ['+'] := by simp
  have hapostrophe : '\'' ∉ "UNB+UNOA:2+".toList ++ rest := by
    rw [List.mem_append, not_or]
    exact ⟨by simp, h⟩
  have hletter : Text.isUnicodeSpace 'U' = false := by decide
  have hplus : Text.isUnicodeSpace '+' = false := by decide
  obtain ⟨rest', hstrip⟩ := stripBy_append "NB+UNOA:2".toList rest hletter hplus
  refine ⟨'U' :: "NB+UNOA:2".toList ++ '+' :: rest', ?_, ?_⟩
  · unfold piecesOf
    rw [List.splitOn_eq_singleton hapostrophe, hchars, List.append_assoc, List.singleton_append,
      List.map_singleton, hstrip]
    rfl
  · have hsplit : (('U' :: "NB+UNOA:2".toList ++ '+' :: rest')).splitOn '+' =
        ['U', 'N', 'B'] :: ("UNOA:2".toList ++ '+' :: rest').splitOn '+' := by
      have hcut : 'U' :: "NB+UNOA:2".toList ++ '+' :: rest' =
          ['U', 'N', 'B'] ++ '+' :: ("UNOA:2".toList ++ '+' :: rest') := by
        have hletters : 'U' :: "NB+UNOA:2".toList = ['U', 'N', 'B'] ++ '+' :: "UNOA:2".toList := by
          simp
        rw [hletters, List.append_assoc, List.cons_append]
        rfl
      rw [hcut, List.splitOn_append_cons_self_of_not_mem (by decide)]
    have htag : String.ofList ['U', 'N', 'B'] = "UNB" := rfl
    unfold parseSegment
    rw [hsplit]
    exact htag

theorem piecesOf_eq_nil_iff {text : List Char} : piecesOf text = [] ↔
    ∀ piece ∈ text.splitOn '\'', Text.stripBy Text.isUnicodeSpace piece = [] := by
  simp [piecesOf, List.filter_eq_nil_iff]

theorem toList_unb (msg : ErpMessage) : (unb msg).toList =
    "UNB+UNOA:2+".toList ++ (msg.senderId.toList ++ '+' :: msg.receiverId.toList) := by
  simp [unb]

/-- The segments of the header, where the sender has no apostrophe: `UNB`, and what is behind an
apostrophe of the receiver. -/
theorem piecesOf_unb {msg : ErpMessage} (hsender : '\'' ∉ msg.senderId.toList) :
    ∃ piece rest, piecesOf (unb msg).toList = piece :: rest ∧ (parseSegment piece).tag = "UNB" ∧
      (rest = [] ↔ ∀ piece ∈ (msg.receiverId.toList.splitOn '\'').tail,
        Text.stripBy Text.isUnicodeSpace piece = []) := by
  rw [toList_unb]
  by_cases hreceiver : '\'' ∈ msg.receiverId.toList
  · obtain ⟨a, b, hab, ha⟩ := List.eq_append_cons_of_mem hreceiver
    have hplain : '\'' ∉ msg.senderId.toList ++ '+' :: a := by simp [hsender, ha]
    obtain ⟨piece, hpiece, htag⟩ := piecesOf_plain hplain
    have hcut : "UNB+UNOA:2+".toList ++ (msg.senderId.toList ++ '+' :: (a ++ '\'' :: b)) =
        "UNB+UNOA:2+".toList ++ (msg.senderId.toList ++ '+' :: a) ++ '\'' :: b := by simp
    refine ⟨piece, piecesOf b, ?_, htag, ?_⟩
    · rw [hab, hcut, piecesOf_append, hpiece, List.singleton_append]
    · rw [hab, List.splitOn_append_cons_self_of_not_mem ha, List.tail_cons, piecesOf_eq_nil_iff]
  · have hplain : '\'' ∉ msg.senderId.toList ++ '+' :: msg.receiverId.toList := by
      simp [hsender, hreceiver]
    obtain ⟨piece, hpiece, htag⟩ := piecesOf_plain hplain
    refine ⟨piece, [], hpiece, htag, iff_of_true rfl ?_⟩
    rw [List.splitOn_eq_singleton hreceiver]
    exact fun _ h => by cases h

/-- Where the sender has an apostrophe, what is behind it is a segment of its own. -/
theorem length_piecesOf_unb {msg : ErpMessage} (hsender : '\'' ∈ msg.senderId.toList) :
    2 ≤ (piecesOf (unb msg).toList).length := by
  obtain ⟨a, b, hab⟩ := List.append_of_mem hsender
  have hletter : 'U' ∈ "UNB+UNOA:2+".toList := by simp
  have hfirst : piecesOf ("UNB+UNOA:2+".toList ++ a) ≠ [] :=
    piecesOf_ne_nil (List.mem_append_left _ hletter) (by decide) (by decide)
  have hsecond : piecesOf (b ++ '+' :: msg.receiverId.toList) ≠ [] :=
    piecesOf_ne_nil (List.mem_append_right _ List.mem_cons_self) (by decide) (by decide)
  have hcut : "UNB+UNOA:2+".toList ++ ((a ++ '\'' :: b) ++ '+' :: msg.receiverId.toList) =
      ("UNB+UNOA:2+".toList ++ a) ++ '\'' :: (b ++ '+' :: msg.receiverId.toList) := by simp
  rw [toList_unb, hab, hcut, piecesOf_append, List.length_append]
  have h₁ := List.length_pos_iff.2 hfirst
  have h₂ := List.length_pos_iff.2 hsecond
  omega

/-! ### Writing, then reading -/

/-- **What is written is read back**: the message type, the envelope, one segment for each entry of
the payload, and in `UNT` the number of the segments from `UNH` on. -/
def RoundTrips (connector : OracleEdiConnector) (msg : ErpMessage) : Prop :=
  (connector.parse (serialize msg)).msgType = msg.msgType ∧
    ∃ unb unh unt unz : List String,
      (connector.parse (serialize msg)).payload.segments =
        [⟨"UNB", unb⟩, ⟨"UNH", unh⟩] ++
          msg.payload.texts.items.map (fun entry => ⟨entry.1, [entry.2]⟩) ++
          [⟨"UNT", unt⟩, ⟨"UNZ", unz⟩] ∧
      unt.head? = some (toString (msg.payload.texts.items.length + 2))

/-- The trailer is read as it is written. -/
theorem parse_serialize (connector : OracleEdiConnector) (msg : ErpMessage) :
    (connector.parse (serialize msg)).payload.segments =
      ((piecesOf (unb msg).toList).map parseSegment ++
        ⟨"UNH", ["1", msg.msgType.value ++ ":D:2.1:UN:EDIFACT"]⟩ ::
        ((entrySegments msg.payload).flatMap fun segment => piecesOf segment.toList).map
          parseSegment) ++ [⟨"UNT", ["2", "1"]⟩, ⟨"UNZ", ["1", "1"]⟩] := by
  have hunt : parseSegment "UNT+2+1".toList = ⟨"UNT", ["2", "1"]⟩ := rfl
  have hunz : parseSegment "UNZ+1+1".toList = ⟨"UNZ", ["1", "1"]⟩ := rfl
  unfold OracleEdiConnector.parse
  rw [pieces_serialize]
  simp only [List.map_append, List.map_cons, List.map_nil, parseSegment_unh, hunt, hunz,
    List.append_assoc, List.cons_append, List.nil_append]

/-- The message type of what is read is the last one. -/
theorem msgType_unh (msg : ErpMessage) (current : MessageType) :
    Segment.msgType current ⟨"UNH", ["1", msg.msgType.value ++ ":D:2.1:UN:EDIFACT"]⟩ =
      msg.msgType := by
  have htype : msgTypeStr ["1", msg.msgType.value ++ ":D:2.1:UN:EDIFACT"] = msg.msgType.value := by
    cases msg.msgType <;> rfl
  rw [Segment.msgType, if_pos rfl, htype, MessageType.ofValue?_value, Option.getD_some]

theorem msgType_of_parse (connector : OracleEdiConnector) (text : String) :
    (connector.parse text).msgType =
      (connector.parse text).payload.segments.foldl Segment.msgType .orders := by
  rw [OracleEdiConnector.parse]

/-- Without entries the message type is read back. -/
theorem msgType_parse_serialize (connector : OracleEdiConnector) {msg : ErpMessage}
    (h : entrySegments msg.payload = []) :
    (connector.parse (serialize msg)).msgType = msg.msgType := by
  rw [msgType_of_parse, parse_serialize, h]
  simp only [List.flatMap_nil, List.map_nil, List.foldl_append, List.foldl_cons, List.foldl_nil,
    msgType_unh]
  rfl

theorem toString_injective {m n : ℕ} (h : toString m = toString n) : m = n := by
  rw [Nat.toString_eq_ofList_toDigits, Nat.toString_eq_ofList_toDigits] at h
  have hdigits := congrArg (Nat.ofDigitChars 10 · 0) (String.ofList_injective h)
  simpa only [Nat.ofDigitChars_ten_toDigits] using hdigits

/-- The count that is written is the one of a message without entries. -/
theorem items_eq_nil_of_roundTrips {connector : OracleEdiConnector} {msg : ErpMessage}
    (h : RoundTrips connector msg) : msg.payload.texts.items = [] := by
  obtain ⟨-, unb, unh, unt, unz, hsegments, hcount⟩ := h
  rw [parse_serialize] at hsegments
  obtain ⟨-, htrailer⟩ := List.append_inj' hsegments rfl
  have hunt : unt = ["2", "1"] := by
    obtain ⟨hfirst, -⟩ := List.cons.inj htrailer
    obtain ⟨-, helements⟩ := Segment.mk.inj hfirst
    exact helements.symm
  rw [hunt] at hcount
  have htwo : toString 2 = toString (msg.payload.texts.items.length + 2) :=
    Option.some.inj hcount
  have hlength := toString_injective htwo
  exact List.eq_nil_of_length_eq_zero (by omega)

theorem entrySegments_of_items {payload : EdiPayload} (h : payload.texts.items = []) :
    entrySegments payload = [] := by
  rw [entrySegments, h]
  rfl

/-- **A message is read back as it was written exactly when** its payload is empty, its sender has
no apostrophe, and its receiver nothing but white space behind one. -/
theorem ediRoundTrips_iff (connector : OracleEdiConnector) (msg : ErpMessage) :
    RoundTrips connector msg ↔ msg.payload.texts.items = [] ∧ '\'' ∉ msg.senderId.toList ∧
      ∀ piece ∈ (msg.receiverId.toList.splitOn '\'').tail,
        Text.stripBy Text.isUnicodeSpace piece = [] := by
  constructor
  · intro h
    have hempty := items_eq_nil_of_roundTrips h
    have hentries := entrySegments_of_items hempty
    refine ⟨hempty, ?_⟩
    obtain ⟨-, unb, unh, unt, unz, hsegments, -⟩ := h
    rw [parse_serialize] at hsegments
    obtain ⟨hfront, -⟩ := List.append_inj' hsegments rfl
    rw [hempty, hentries] at hfront
    have hlength := congrArg List.length hfront
    simp only [List.length_append, List.length_map, List.length_cons, List.length_nil,
      List.flatMap_nil, List.map_nil] at hlength
    have hsender : '\'' ∉ msg.senderId.toList := fun hmem => by
      have htwo := length_piecesOf_unb hmem
      omega
    obtain ⟨piece, rest, hpieces, -, hrest⟩ := piecesOf_unb hsender
    rw [hpieces, List.length_cons] at hlength
    exact ⟨hsender, hrest.1 (List.eq_nil_of_length_eq_zero (by omega))⟩
  · rintro ⟨hempty, hsender, hreceiver⟩
    have hentries := entrySegments_of_items hempty
    obtain ⟨piece, rest, hpieces, htag, hrest⟩ := piecesOf_unb hsender
    refine ⟨msgType_parse_serialize connector hentries, (parseSegment piece).elements,
      ["1", msg.msgType.value ++ ":D:2.1:UN:EDIFACT"], ["2", "1"], ["1", "1"], ?_, ?_⟩
    · rw [parse_serialize, hentries, hempty, hpieces, hrest.2 hreceiver, ← htag]
      rfl
    · rw [hempty]
      rfl

/-- An order for a trading partner. -/
def orderRef : ErpMessage where
  msgType := .orders
  senderId := "WMS"
  receiverId := "TP001"
  payload := { texts := Dict.empty.set "order_ref" "PO'1" }

/-- There are three segments from `UNH` to `UNT` without the apostrophe, and four with it; the
trailer says that there are two. -/
theorem orderRef_not_roundTrips :
    ((OracleEdiConnector.mk none).parse (serialize orderRef)).payload.segments =
      [⟨"UNB", ["UNOA:2", "WMS", "TP001"]⟩, ⟨"UNH", ["1", "ORDERS:D:2.1:UN:EDIFACT"]⟩,
        ⟨"order_ref", ["PO"]⟩, ⟨"1", []⟩, ⟨"UNT", ["2", "1"]⟩, ⟨"UNZ", ["1", "1"]⟩] ∧
    ¬ RoundTrips ⟨none⟩ orderRef := by
  refine ⟨rfl, fun h => ?_⟩
  have hempty := items_eq_nil_of_roundTrips h
  cases hempty

/-! ### Reading, then writing -/

/-- The segments of a message that are not of its envelope. -/
def businessSegments (msg : ErpMessage) : List Segment :=
  msg.payload.segments.filter fun segment => segment.tag ∉ ["UNB", "UNH", "UNT", "UNZ"]

/-- The segments of an interchange header from the sender. -/
def OracleEdiConnector.header (connector : OracleEdiConnector) : List Segment :=
  (piecesOf ("UNB+UNOA:2+" ++ connector.senderId ++ "+" ++ "WMS").toList).map parseSegment

/-- **A text that is read, written and read again** keeps its message type.  Its business segments
are left out: there are those of the header only, which has none without an apostrophe. -/
theorem reparse (connector : OracleEdiConnector) (text : String) :
    (connector.parse (serialize (connector.parse text))).msgType =
        (connector.parse text).msgType ∧
      businessSegments (connector.parse (serialize (connector.parse text))) =
        connector.header.filter (fun segment => segment.tag ∉ ["UNB", "UNH", "UNT", "UNZ"]) ∧
      ('\'' ∉ connector.senderId.toList →
        businessSegments (connector.parse (serialize (connector.parse text))) = []) := by
  have hentries : entrySegments (connector.parse text).payload = [] := entrySegments_of_items rfl
  have hbusiness : businessSegments (connector.parse (serialize (connector.parse text))) =
      connector.header.filter fun segment => segment.tag ∉ ["UNB", "UNH", "UNT", "UNZ"] := by
    rw [businessSegments, parse_serialize, hentries]
    simp only [List.filter_append, List.flatMap_nil, List.map_nil]
    exact List.append_nil _ |>.trans (List.append_nil _)
  refine ⟨msgType_parse_serialize connector hentries, hbusiness, fun hsender => ?_⟩
  have hsender' : '\'' ∉ (connector.parse text).senderId.toList := hsender
  obtain ⟨piece, rest, hpieces, htag, hrest⟩ := piecesOf_unb hsender'
  have hreceiver : rest = [] := hrest.2 (by
    change ∀ piece ∈ ("WMS".toList.splitOn '\'').tail, _
    rw [List.splitOn_eq_singleton (by simp)]
    exact fun _ h => by cases h)
  rw [hreceiver] at hpieces
  have hheader : connector.header = [parseSegment piece] := congrArg (List.map parseSegment) hpieces
  rw [hbusiness, hheader, List.filter_singleton, htag]
  rfl

/-- An order with a line. -/
def orderLine : String := "UNH+1+ORDERS:D:2.1:UN:EDIFACT'LIN+1++SKU001:SU:47++100'UNT+2+1'"

/-- The line is read, and lost when the message is written. -/
theorem orderLine_reparsed :
    businessSegments ((OracleEdiConnector.mk (some "TP001")).parse orderLine) =
      [⟨"LIN", ["1", "", "SKU001:SU:47", "", "100"]⟩] ∧
    businessSegments ((OracleEdiConnector.mk (some "TP001")).parse
      (serialize ((OracleEdiConnector.mk (some "TP001")).parse orderLine))) = [] :=
  ⟨rfl, rfl⟩

/-- The message of the order keeps its type, and nothing else. -/
theorem reparse_orderLine :
    ((OracleEdiConnector.mk none).parse (serialize ((OracleEdiConnector.mk none).parse
      orderLine))).msgType = ((OracleEdiConnector.mk none).parse orderLine).msgType ∧
    businessSegments ((OracleEdiConnector.mk none).parse (serialize
      ((OracleEdiConnector.mk none).parse orderLine))) = [] :=
  have h := reparse ⟨none⟩ orderLine
  ⟨h.1, h.2.2 (by simp [OracleEdiConnector.senderId])⟩

end Connectors

end OmsWmsTms
