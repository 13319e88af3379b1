import OmsWmsTms.Connectors.Edi

/-!
# IDoc documents

`SAPPIConnector.parse_idoc` of `src/models/erp_connector.py`.  The payload of a message is a
dictionary with the tag of a segment as key, and that tag is the same for all of them.

* `Element` : an XML element; `Element.iter` : the elements below it, itself included.
* `Message` : `ERPMessage`, with a payload of some type.
* `SapPiConnector.parseIdoc` : the messages of a document.
* `segmentsOf`, `IdocPayload.segments` : the segments of an IDOC, and those that a payload holds.
* `LosesNothing` : what is promised; `parseIdoc_iff` : when it holds.
-/

namespace OmsWmsTms

namespace Connectors

/-! ### Documents -/

/-- An XML element: its tag, the text before its first child, and its children. -/
inductive Element
  | node (tag : String) (text : Option String) (children : List Element)

namespace Element

/-- The tag. -/
def tag : Element → String
  | node tag _ _ => tag

/-- The text. -/
def text : Element → Option String
  | node _ text _ => text

/-- The children. -/
def children : Element → List Element
  | node _ _ children => children

mutual

/-- An element and what is below it, in document order. -/
def all : Element → List Element
  | node tag text children => node tag text children :: allOf children

/-- Some elements and what is below them. -/
def allOf : List Element → List Element
  | [] => []
  | element :: elements => all element ++ allOf elements

end

/-- `element.iter(tag)`. -/
def iter (element : Element) (tag : String) : List Element :=
  element.all.filter fun e => e.tag = tag

/-- `element.findtext(tag, default)`: an element without text has the empty one. -/
def findtext (element : Element) (tag default : String) : String :=
  match element.children.find? fun e => e.tag = tag with
  | some found => found.text.getD ""
  | none => default

end Element

/-! ### Messages -/

/-- `ERPMessage`, with a payload of some type. -/
structure Message (Payload : Type) where
  msgType : MessageType
  senderId : String
  receiverId : String
  createdAt : ℤ
  payload : Payload

/-- The payload of a document: the fields of its segments, or its text. -/
inductive IdocPayload
  | idoc (payload : Dict String (Dict String String))
  | raw (idocXml : String)

/-- `SAPPIConnector`. -/
structure SapPiConnector where
  senderPartner : String

/-- `seg_data`. -/
def segData (segment : Element) : Dict String String :=
  segment.children.foldl (fun data field => data.set field.tag (field.text.getD "")) .empty

/-- `payload`. -/
def idocPayload (idoc : Element) : Dict String (Dict String String) :=
  (idoc.iter "segment").foldl (fun payload segment => payload.set segment.tag (segData segment))
    .empty

namespace SapPiConnector

variable (connector : SapPiConnector)

/-- The message of an IDOC element. -/
def idocMessage (createdAt : ℤ) (idoc : Element) : Message IdocPayload where
  msgType := (MessageType.ofValue? (idoc.findtext "DOCTYPE" "ORDERS")).getD .orders
  senderId := connector.senderPartner
  receiverId := "SAP_ECC"
  createdAt
  payload := .idoc (idocPayload idoc)

/-- The message of a document without IDOC elements. -/
def rawMessage (createdAt : ℤ) (idocXml : String) : Message IdocPayload where
  msgType := .orders
  senderId := connector.senderPartner
  receiverId := "SAP_ECC"
  createdAt
  payload := .raw idocXml

/-- **`parse_idoc`**; `fromString` is `ElementTree.fromstring`, which raises where it has no element,
and `now i` the time at which message `i` is made. -/
def parseIdoc (fromString : String → Option Element) (now : ℕ → ℤ) (idocXml : String) :
    Option (List (Message IdocPayload)) :=
  (fromString idocXml).map fun root =>
    match (root.iter "IDOC").mapIdx fun i idoc => connector.idocMessage (now i) idoc with
    | [] => [connector.rawMessage (now 0) idocXml]
    | messages => messages

end SapPiConnector

/-! ### What is promised -/

/-- The fields of a segment, in order. -/
def fieldsOf (segment : Element) : List (String × String) :=
  segment.children.map fun field => (field.tag, field.text.getD "")

/-- The segments of an IDOC with their fields, in document order. -/
def segmentsOf (idoc : Element) : List (String × List (String × String)) :=
  (idoc.iter "segment").map fun segment => (segment.tag, fieldsOf segment)

/-- The segments that a payload holds. -/
def IdocPayload.segments : IdocPayload → List (String × List (String × String))
  | idoc payload => payload.items.map fun item => (item.1, item.2.items)
  | raw _ => []

/-- **One message for each IDOC**, and its payload has the segments of the IDOC. -/
def LosesNothing (root : Element) (messages : List (Message IdocPayload)) : Prop :=
  List.Forall₂ (fun idoc message => (segmentsOf idoc).Sublist message.payload.segments)
    (root.iter "IDOC") messages

/-- An IDOC whose payload keeps everything: one segment at most, whose fields have names of their
own. -/
def Keepable (idoc : Element) : Prop :=
  (idoc.iter "segment").length ≤ 1 ∧
    ∀ segment ∈ idoc.iter "segment", (segment.children.map Element.tag).Nodup

instance (idoc : Element) : Decidable (Keepable idoc) := inferInstanceAs (Decidable (_ ∧ _))

/-! ### Payloads -/

section Items

variable {K V α : Type*} [DecidableEq K]

/-- The items after a loop of assignments. -/
theorem items_foldl_set (f : α → K) (g : α → V) (l : List α) (d : Dict K V) :
    (l.foldl (fun d a => d.set (f a) (g a)) d).items =
      (l.map fun a => (f a, g a)).foldl (fun items item => Dict.insert item.1 item.2 items)
        d.items := by
  induction l generalizing d with
  | nil => rfl
  | cons a l ih => rw [List.foldl_cons, ih, List.map_cons, List.foldl_cons]; rfl

/-- Assignments to one key leave the last of them. -/
theorem foldl_insert_same {k : K} {items : List (K × V)} (h : ∀ item ∈ items, item.1 = k) :
    items.foldl (fun items item => Dict.insert item.1 item.2 items) [] = items.getLast?.toList := by
  induction items using List.reverseRecOn with
  | nil => rfl
  | append_singleton items last ih =>
    obtain ⟨hitems, hlast⟩ := List.forall_mem_append.1 h
    rw [List.foldl_append, ih hitems, List.getLast?_append_of_ne_nil _ (List.cons_ne_nil _ _)]
    cases hprev : items.getLast? with
    | none => rfl
    | some prev =>
      have hkey : prev.1 = last.1 := (hitems prev (List.mem_of_getLast? hprev)).trans
        (hlast last List.mem_cons_self).symm
      simp [Dict.insert, hkey]

end Items

/-- **A segment keeps its fields exactly when** their names differ. -/
theorem items_segData_iff {segment : Element} : (segData segment).items = fieldsOf segment ↔
    (segment.children.map Element.tag).Nodup := by
  have hnames : (fieldsOf segment).map Prod.fst = segment.children.map Element.tag := by
    simp [fieldsOf, Function.comp_def]
  rw [← hnames]
  constructor
  · intro h
    rw [← h]
    exact (segData segment).nodup
  · intro h
    unfold segData
    rw [items_foldl_set]
    exact (Dict.foldl_insert_of_nodup (fieldsOf segment) [] h).trans (List.nil_append _)

theorem tag_of_mem_iter {element found : Element} {tag : String} (h : found ∈ element.iter tag) :
    found.tag = tag := of_decide_eq_true (List.mem_filter.1 h).2

/-- **The payload of an IDOC** has its last segment. -/
theorem segments_idocPayload (idoc : Element) :
    IdocPayload.segments (.idoc (idocPayload idoc)) =
      (((idoc.iter "segment").getLast?).map fun segment =>
        (segment.tag, (segData segment).items)).toList := by
  have hkey : ∀ item ∈ (idoc.iter "segment").map fun segment => (segment.tag, segData segment),
      item.1 = "segment" := by
    intro item hitem
    obtain ⟨segment, hsegment, rfl⟩ := List.mem_map.1 hitem
    exact tag_of_mem_iter hsegment
  unfold IdocPayload.segments idocPayload
  dsimp only
  rw [items_foldl_set]
  change List.map _ (List.foldl _ [] _) = _
  rw [foldl_insert_same hkey, List.getLast?_map]
  cases (idoc.iter "segment").getLast? <;> rfl

/-- **A payload has the segments of its IDOC exactly when** it can keep them. -/
theorem segments_sublist_iff {idoc : Element} :
    (segmentsOf idoc).Sublist (IdocPayload.segments (.idoc (idocPayload idoc))) ↔
      Keepable idoc := by
  rw [segments_idocPayload]
  unfold segmentsOf Keepable
  constructor
  · intro h
    have hlength : (idoc.iter "segment").length ≤ 1 := by
      have hle := h.length_le
      rw [List.length_map] at hle
      refine hle.trans ?_
      cases (idoc.iter "segment").getLast? <;> simp
    refine ⟨hlength, fun segment hsegment => items_segData_iff.1 ?_⟩
    obtain ⟨only, honly⟩ := List.length_eq_one_iff.1
      (le_antisymm hlength (List.length_pos_of_mem hsegment))
    rw [honly] at hsegment h
    obtain rfl := List.mem_singleton.1 hsegment
    have hitem := List.mem_singleton.1 (h.subset (List.mem_singleton_self _))
    exact (congrArg Prod.snd hitem).symm
  · rintro ⟨hlength, hnames⟩
    cases hiter : idoc.iter "segment" with
    | nil => exact List.nil_sublist _
    | cons segment rest =>
      rw [hiter] at hlength hnames
      obtain rfl : rest = [] := by
        rw [List.length_cons] at hlength
        exact List.eq_nil_of_length_eq_zero (by omega)
      have hitems := items_segData_iff.2 (hnames segment List.mem_cons_self)
      simp [hitems]

/-! ### The messages of a document -/

/-- A relation between the elements of a list and what is made of them, with their positions. -/
theorem forall₂_mapIdx_iff {α β : Type*} {R : α → β → Prop} {p : α → Prop} {f : ℕ → α → β}
    {l : List α} (h : ∀ i a, R a (f i a) ↔ p a) :
    List.Forall₂ R l (l.mapIdx f) ↔ ∀ a ∈ l, p a := by
  induction l generalizing f with
  | nil => simp
  | cons a l ih =>
    rw [List.mapIdx_cons, List.forall₂_cons, h, ih fun i => h (i + 1), List.forall_mem_cons]

variable {connector : SapPiConnector} {fromString : String → Option Element} {now : ℕ → ℤ}
  {idocXml : String} {root : Element}

/-- The messages of the IDOCs lose nothing exactly when the IDOCs can be kept. -/
theorem losesNothing_mapIdx_iff (connector : SapPiConnector) (now : ℕ → ℤ) (root : Element) :
    LosesNothing root
      ((root.iter "IDOC").mapIdx fun i idoc => connector.idocMessage (now i) idoc) ↔
    ∀ idoc ∈ root.iter "IDOC", Keepable idoc :=
  forall₂_mapIdx_iff fun _ _ => segments_sublist_iff

/-- **Nothing of a document is lost exactly when** there is an IDOC in it, and each IDOC has one
segment at most, whose fields have names of their own. -/
theorem parseIdoc_iff (hroot : fromString idocXml = some root) :
    (∃ messages, connector.parseIdoc fromString now idocXml = some messages ∧
        LosesNothing root messages) ↔
      root.iter "IDOC" ≠ [] ∧ ∀ idoc ∈ root.iter "IDOC", Keepable idoc := by
  have hall := losesNothing_mapIdx_iff connector now root
  unfold SapPiConnector.parseIdoc
  rw [hroot, Option.map_some]
  simp only [Option.some.injEq, exists_eq_left']
  unfold LosesNothing at hall ⊢
  cases hidocs : root.iter "IDOC" with
  | nil =>
    refine iff_of_false (fun h => ?_) fun h => h.1 rfl
    cases h
  | cons idoc idocs =>
    rw [hidocs, List.mapIdx_cons] at hall
    rw [List.mapIdx_cons]
    exact hall.trans (and_iff_right (List.cons_ne_nil _ _)).symm

/-! ### An order with two lines -/

/-- A segment with one field. -/
def lineSegment (line : String) : Element :=
  .node "segment" none [.node "POSEX" (some line) []]

/-- An order with some segments. -/
def orderRoot (segments : List Element) : Element :=
  .node "ORDERS05" none [.node "IDOC" none (.node "DOCTYPE" (some "ORDERS") [] :: segments)]

/-- The text of an order with one line, and of one with two. -/
def oneLineXml : String := "<ORDERS05><IDOC><DOCTYPE>ORDERS</DOCTYPE>" ++
  "<segment><POSEX>10</POSEX></segment></IDOC></ORDERS05>"

@[inherit_doc oneLineXml]
def twoLinesXml : String := "<ORDERS05><IDOC><DOCTYPE>ORDERS</DOCTYPE>" ++
  "<segment><POSEX>10</POSEX></segment><segment><POSEX>20</POSEX></segment></IDOC></ORDERS05>"

/-- What is read in the two texts. -/
def orderFromString (idocXml : String) : Option Element :=
  if idocXml = oneLineXml then some (orderRoot [lineSegment "10"])
  else if idocXml = twoLinesXml then some (orderRoot [lineSegment "10", lineSegment "20"])
  else none

/-- **An order with one line** is kept. -/
theorem oneLine_kept : ∃ messages,
    (SapPiConnector.mk "WMS001").parseIdoc orderFromString (fun _ => 0) oneLineXml =
        some messages ∧ LosesNothing (orderRoot [lineSegment "10"]) messages :=
  (parseIdoc_iff (if_pos rfl)).2 (by decide +kernel)

/-- **Of an order with two lines** only the second one is in the payload. -/
theorem twoLines_lost : ∃ message,
    (SapPiConnector.mk "WMS001").parseIdoc orderFromString (fun _ => 0) twoLinesXml =
        some [message] ∧
      message.payload.segments = [("segment", [("POSEX", "20")])] ∧
      ¬ LosesNothing (orderRoot [lineSegment "10", lineSegment "20"]) [message] := by
  have hroot : orderFromString twoLinesXml =
      some (orderRoot [lineSegment "10", lineSegment "20"]) :=
    (if_neg (by decide +kernel)).trans (if_pos rfl)
  have hidocs : (orderRoot [lineSegment "10", lineSegment "20"]).iter "IDOC" =
      [.node "IDOC" none [.node "DOCTYPE" (some "ORDERS") [], lineSegment "10",
        lineSegment "20"]] := by
    simp [Element.iter, Element.all, Element.allOf, Element.tag, orderRoot, lineSegment]
  have hparse : (SapPiConnector.mk "WMS001").parseIdoc orderFromString (fun _ => 0) twoLinesXml =
      some [(SapPiConnector.mk "WMS001").idocMessage 0 (.node "IDOC" none
        [.node "DOCTYPE" (some "ORDERS") [], lineSegment "10", lineSegment "20"])] := by
    rw [SapPiConnector.parseIdoc, hroot, Option.map_some, hidocs]
    rfl
  refine ⟨_, hparse, ?_, fun h => ?_⟩
  · decide +kernel
  · have hall := losesNothing_mapIdx_iff (SapPiConnector.mk "WMS001") (fun _ => 0)
      (orderRoot [lineSegment "10", lineSegment "20"])
    rw [hidocs] at hall
    exact absurd (hall.1 h _ List.mem_cons_self) (by decide +kernel)

end Connectors

end OmsWmsTms
