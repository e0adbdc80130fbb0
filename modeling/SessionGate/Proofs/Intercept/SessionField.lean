import SessionGate.Intercept.Plan
import SessionGate.Proofs.Cluster.Manifest
import SessionGate.Proofs.Template.Segment
import SessionGate.Proofs.Yaml.Field
import SessionGate.Proofs.Yaml.Plain

/-! # Fields that are the id of a session

* `Plan.manifests_isOk`: manifests come of a template if each document is null or gives one.
* `Plan.text_of_segments`: where the id comes to stand in the text of a template.
* `Plan.session_field`: which value a field has whose plain scalar is the id, and what comes of its document.
-/
namespace SessionGate.Intercept.Plan
set_option autoImplicit false
open Cluster (Error Manifest)
open Json (Pointer)
open Result (bind_eq_ok exists_of_mem_mapM mapM_isOk mem_of_mapM)
open Session (Token isId)
open Template (Segment Variables)
open Yaml (Meaning Node scalarAt?)

variable {plan : Plan} {token : Token} {text : String} {nodes : List Node} {node : Node} {document value : Json}
  {all : List Manifest} {i : Nat} {place : Pointer}

/-- The variables of the template. -/
def vars (plan : Plan) : Variables := .ofSession plan.namespaceName plan.session

theorem isId_of_parse? (h : Token.parse? plan.session = some token) : isId plan.session.toList = true := by
  rw [Token.parse?] at h
  split at h
  · next hid => exact hid
  · cases h

theorem isScalar_of_meaning (h : Meaning plan.session value) : Manifest.IsScalar value := by
  intro key
  cases h with
  | null | yes | no | integer => rfl
  | float => split <;> rfl

/-- A value with a field is not null. -/
theorem isNull_of_pointer? (hplace : place ≠ []) (h : document.pointer? place = some value) :
    document.isNull = false := by
  cases place with
  | nil => exact absurd rfl hplace
  | cons key place =>
    cases document with
    | null => cases h
    | _ => rfl

/-! ## Manifests of documents -/

/-- The document is null or gives a manifest. -/
def Accepts (plan : Plan) (node : Node) : Prop := ∃ document, node.toJson = .ok document ∧
  (document.isNull = false → ∃ manifest, Manifest.ofJson document plan.namespaceName = .ok manifest)

/-- Each document that is not null gives its manifest. -/
theorem manifests_eq_ok (htext : plan.text = .ok text) (hload : Yaml.load text = .ok nodes) :
    plan.manifests = .ok all ↔ ∃ documents, nodes.mapM Node.toJson = .ok documents ∧
      (documents.filter (!·.isNull)).mapM (Manifest.ofJson · plan.namespaceName) = .ok all := by
  have hmanifests : plan.manifests =
      (Yaml.documents text >>= fun values => values.mapM (Manifest.ofJson · plan.namespaceName)) := by
    rw [manifests, htext]
    rfl
  rw [hmanifests]
  constructor
  · intro h
    obtain ⟨values, hvalues, h⟩ := bind_eq_ok.mp h
    obtain ⟨nodes', documents, hload', hdocuments, rfl⟩ := Yaml.documents_eq_ok.mp hvalues
    obtain rfl := Except.ok.inj (hload.symm.trans hload')
    exact ⟨documents, hdocuments, h⟩
  · rintro ⟨documents, hdocuments, h⟩
    exact bind_eq_ok.mpr ⟨_, Yaml.documents_eq_ok.mpr ⟨nodes, documents, hload, hdocuments, rfl⟩, h⟩

theorem manifests_isOk (htext : plan.text = .ok text) (hload : Yaml.load text = .ok nodes) :
    (∃ all, plan.manifests = .ok all) ↔ ∀ node ∈ nodes, plan.Accepts node := by
  have hmem : ∀ {documents : List Json}, (∃ all, (documents.filter (!·.isNull)).mapM
      (Manifest.ofJson · plan.namespaceName) = .ok all) ↔ ∀ document ∈ documents, document.isNull = false →
        ∃ manifest, Manifest.ofJson document plan.namespaceName = .ok manifest := by
    intro documents
    rw [mapM_isOk]
    simp [List.mem_filter]
  constructor
  · rintro ⟨all, hall⟩ node hnode
    obtain ⟨documents, hdocuments, hall⟩ := (manifests_eq_ok htext hload).mp hall
    obtain ⟨document, hdocument, hjson⟩ := mem_of_mapM hdocuments hnode
    exact ⟨document, hjson, hmem.mp ⟨all, hall⟩ document hdocument⟩
  · intro haccepts
    obtain ⟨documents, hdocuments⟩ := mapM_isOk.mpr fun node hnode =>
      (haccepts node hnode).imp fun _ hdocument => hdocument.1
    obtain ⟨all, hall⟩ := hmem.mpr fun document hdocument hnull => by
      obtain ⟨node, hnode, hjson⟩ := exists_of_mem_mapM hdocuments hdocument
      obtain ⟨document', hjson', hmanifest⟩ := haccepts node hnode
      obtain rfl := Except.ok.inj (hjson.symm.trans hjson')
      exact hmanifest hnull
    exact ⟨all, (manifests_eq_ok htext hload).mpr ⟨documents, hdocuments, hall⟩⟩

/-- A document with a field gives a manifest if the documents do. -/
theorem mem_manifests (htext : plan.text = .ok text) (hload : Yaml.load text = .ok nodes)
    (hnode : nodes[i]? = some node) (h : plan.manifests = .ok all) :
    ∃ document, node.toJson = .ok document ∧ (document.isNull = false →
      ∃ manifest ∈ all, Manifest.ofJson document plan.namespaceName = .ok manifest) := by
  obtain ⟨documents, hdocuments, h⟩ := (manifests_eq_ok htext hload).mp h
  obtain ⟨document, hmem, hjson⟩ := mem_of_mapM hdocuments (List.mem_of_getElem? hnode)
  refine ⟨document, hjson, fun hnull => ?_⟩
  have hkept : document ∈ documents.filter (!·.isNull) := List.mem_filter.mpr ⟨hmem, by rw [hnull]; rfl⟩
  obtain ⟨manifest, hmanifest, hof⟩ := mem_of_mapM h hkept
  exact ⟨manifest, hmanifest, hof⟩

/-! ## Text of a template -/

/-- The text of a template of texts and placeholders has the id as it is in the place of its placeholder. -/
theorem text_of_segments {before after : List Segment} (htoken : Token.parse? plan.session = some token)
    (hproper : Segment.AreProper (before ++ .placeholder "SESSION_ID".toList :: after))
    (hnames : ∀ name, .placeholder name ∈ before ++ after →
      name = "SESSION_ID".toList ∨ name = "NAMESPACE".toList ∧ '\x00' ∉ plan.namespaceName.toList)
    (htemplate : plan.template =
      String.ofList ((before ++ .placeholder "SESSION_ID".toList :: after).flatMap Segment.written)) :
    plan.text = .ok (String.ofList (before.flatMap (Segment.filled plan.vars) ++ plan.session.toList ++
      after.flatMap (Segment.filled plan.vars))) := by
  have hsession : plan.vars.get? "SESSION_ID" = some plan.session := by
    rw [vars, Variables.get?_ofSession, if_pos rfl]
  have hnamespace : plan.vars.get? "NAMESPACE" = some plan.namespaceName := by
    rw [vars, Variables.get?_ofSession, if_neg (by decide), if_pos rfl]
  have hzero : '\x00' ∉ plan.session.toList := Yaml.not_mem_of_isId (isId_of_parse? htoken) (by decide)
  have hvalues : ∀ name, .placeholder name ∈ before ++ .placeholder "SESSION_ID".toList :: after →
      ∃ value, plan.vars.get? (String.ofList name) = some value ∧ '\x00' ∉ value.toList := by
    intro name hname
    have hname : name = "SESSION_ID".toList ∨ name = "NAMESPACE".toList ∧ '\x00' ∉ plan.namespaceName.toList := by
      rw [List.mem_append, List.mem_cons] at hname
      rcases hname with hname | hname | hname
      · exact hnames name (List.mem_append_left _ hname)
      · exact .inl (Segment.placeholder.inj hname)
      · exact hnames name (List.mem_append_right _ hname)
    rcases hname with rfl | ⟨rfl, hclean⟩
    · exact ⟨_, hsession, hzero⟩
    · exact ⟨_, hnamespace, hclean⟩
  have hfilled : Segment.filled plan.vars (.placeholder "SESSION_ID".toList) = plan.session.toList := by
    rw [Segment.filled, String.ofList_toList, hsession, Option.getD_some]
  rw [text, htemplate, ← vars, Variables.render_written hproper hvalues, List.flatMap_append, List.flatMap_cons,
    ← List.append_assoc, hfilled]

/-! ## Fields -/

/-- With a text in the field, a document is accepted if it was, unless the field is one that needs the text. -/
theorem accepts_put? {quoted leaf : Node} {s : String} (hplace : place ≠ []) (hat : node.at? place = some leaf)
    (hvalue : leaf.toJson = .ok value) (hscalar : Manifest.IsScalar value)
    (hput : Node.put? (.text s) node place = some quoted) : plan.Accepts node ↔
      plan.Accepts quoted ∧ (place ∈ Manifest.required → ∃ t, value = .string t) := by
  obtain ⟨hat', hput'⟩ := Node.at?_put? hat hput
  constructor
  · rintro ⟨document, hdocument, hmanifest⟩
    obtain ⟨hstands, filled, hfilled, halter⟩ := Node.toJson_put? hat hput hvalue rfl hdocument
    have hsame := (Manifest.ofJson_filled hstands hscalar halter).mp (hmanifest (isNull_of_pointer? hplace hstands))
    exact ⟨⟨filled, hfilled, fun _ => hsame.1⟩, hsame.2⟩
  -- the way back is the same change, with the old part in the place of the text
  · rintro ⟨⟨filled, hfilled, hmanifest⟩, hneeded⟩
    obtain ⟨hstands', document, hdocument, -⟩ := Node.toJson_put? hat' hput' rfl hvalue hfilled
    obtain ⟨hstands, filled', hfilled', halter⟩ := Node.toJson_put? hat hput hvalue rfl hdocument
    obtain rfl := Except.ok.inj (hfilled.symm.trans hfilled')
    exact ⟨document, hdocument, fun _ => (Manifest.ofJson_filled hstands hscalar halter).mpr
      ⟨hmanifest (isNull_of_pointer? hplace hstands'), hneeded⟩⟩

theorem forall_accepts_set {quoted : Node} {q : Prop} (hnode : nodes[i]? = some node)
    (h : plan.Accepts node ↔ plan.Accepts quoted ∧ q) :
    (∀ other ∈ nodes, plan.Accepts other) ↔ (∀ other ∈ nodes.set i quoted, plan.Accepts other) ∧ q := by
  constructor
  · intro hall
    have hquoted := h.mp (hall node (List.mem_of_getElem? hnode))
    refine ⟨fun other hother => ?_, hquoted.2⟩
    rcases List.mem_or_eq_of_mem_set hother with hother | rfl
    · exact hall other hother
    · exact hquoted.1
  · rintro ⟨hall, hq⟩ other hother
    obtain ⟨j, hj⟩ := List.mem_iff_getElem?.mp hother
    by_cases hij : i = j
    · subst hij
      obtain rfl := Option.some.inj (hnode.symm.trans hj)
      exact h.mpr ⟨hall quoted (List.mem_set (List.getElem?_eq_some_iff.mp hnode).1 quoted), hq⟩
    · exact hall other (List.mem_of_getElem? ((List.getElem?_set_ne hij).trans hj))

/-- In a template of texts and placeholders, the id replaces its placeholder as it is. Whatever the template, a field
whose plain scalar is the id has it as its text, or the other value that the id stands for. Manifests come of the
template if they come of it with the id as a text in the field, unless that is a field which needs the text. -/
theorem session_field (htoken : Token.parse? plan.session = some token) :
    (∀ before after, Segment.AreProper (before ++ .placeholder "SESSION_ID".toList :: after) →
      (∀ name, .placeholder name ∈ before ++ after →
        name = "SESSION_ID".toList ∨ name = "NAMESPACE".toList ∧ '\x00' ∉ plan.namespaceName.toList) →
      plan.template = String.ofList ((before ++ .placeholder "SESSION_ID".toList :: after).flatMap Segment.written) →
      plan.text = .ok (String.ofList (before.flatMap (Segment.filled plan.vars) ++ plan.session.toList ++
        after.flatMap (Segment.filled plan.vars)))) ∧
    ∀ text nodes i place, plan.text = .ok text → Yaml.load text = .ok nodes → place ≠ [] →
      scalarAt? text i place = some (none, .plain, plan.session) →
      ∃ node quoted value, nodes[i]? = some node ∧
        Node.put? (.text plan.session) node place = some quoted ∧
        (Node.ofPlain plan.session).toJson = .ok value ∧
        (Meaning plan.session value ∨ value = .string plan.session ∧ ∀ other, ¬ Meaning plan.session other) ∧
        ((∃ all, plan.manifests = .ok all) ↔ (∀ other ∈ nodes.set i quoted, plan.Accepts other) ∧
          (place ∈ Manifest.required → value = .string plan.session)) ∧
        ∀ all, plan.manifests = .ok all → ∃ document, node.toJson = .ok document ∧
          ∃ manifest ∈ all, Manifest.ofJson document plan.namespaceName = .ok manifest ∧
            (Manifest.GivesWay document place →
              manifest.body.pointer? Manifest.namespacePath = some (.string plan.namespaceName)) ∧
            (¬ Manifest.GivesWay document place → manifest.body.pointer? place = some value) := by
  refine ⟨fun before after hproper hnames htemplate => text_of_segments htoken hproper hnames htemplate,
    fun text nodes i place htext hload hplace hfield => ?_⟩
  obtain ⟨node, hnode, hat⟩ := Yaml.at?_of_scalarAt? hload hfield
  obtain ⟨quoted, hput⟩ := Node.exists_put? hat (.text plan.session)
  obtain ⟨value, hvalue, hmeaning⟩ := Yaml.toJson_ofPlain (isId_of_parse? htoken)
  have hscalar : Manifest.IsScalar value := by
    rcases hmeaning with hmeaning | ⟨rfl, -⟩
    · exact isScalar_of_meaning hmeaning
    · exact fun _ => rfl
  have htextual : (∃ t, value = .string t) ↔ value = .string plan.session := by
    rcases hmeaning with hmeaning | ⟨rfl, -⟩
    · exact ⟨fun ⟨t, ht⟩ => absurd ht (hmeaning.not_string t), fun h => ⟨_, h⟩⟩
    · exact ⟨fun _ => rfl, fun h => ⟨_, h⟩⟩
  refine ⟨node, quoted, value, hnode, hput, hvalue, hmeaning, ?_, fun all hall => ?_⟩
  · rw [manifests_isOk htext hload, ← htextual]
    exact forall_accepts_set hnode (accepts_put? hplace hat hvalue hscalar hput)
  · obtain ⟨document, hdocument, hmanifest⟩ := mem_manifests htext hload hnode hall
    obtain ⟨hstands, -⟩ := Node.toJson_put? hat hput hvalue rfl hdocument
    obtain ⟨manifest, hmem, hmanifest⟩ := hmanifest (isNull_of_pointer? hplace hstands)
    exact ⟨document, hdocument, manifest, hmem, hmanifest,
      Manifest.pointer?_body hmanifest hstands hscalar⟩

/-! ## The label of a Service -/

/-- The lines of a Service up to the value of a label. -/
def labelLines : String := "apiVersion: v1\nkind: Service\nmetadata:\n  name: web\n  labels:\n    session: "

/-- A Service with the id as a label. -/
def labelled (session : String) : Plan where
  namespaceName := "default"
  session := session
  template := labelLines ++ "$\x7bSESSION_ID\x7d\n"
  wait := ⟨0⟩
  echoDeploy := "carta-echo"

def sessionLabel : Pointer := ["metadata", "labels", "session"]

theorem labelled_has_text : ∃ all, (labelled "abc123").manifests = .ok all ∧
    ∃ manifest ∈ all, manifest.body.pointer? sessionLabel = some (.string "abc123") := by
  have htoken : Token.parse? (labelled "abc123").session = some ⟨"abc123", by decide⟩ := by decide
  obtain ⟨hsegments, hfields⟩ := session_field htoken
  have htext : (labelled "abc123").text = .ok (labelLines ++ "abc123\n") := by
    have hproper : Segment.AreProper
        ([.text labelLines.toList] ++ [.placeholder "SESSION_ID".toList, .text ['\n']]) := by
      refine ⟨by decide, fun hsign => absurd hsign (by decide), by decide +kernel, by simp, by decide, by decide,
        fun _ => rfl, by decide, by simp, trivial⟩
    exact hsegments [.text labelLines.toList] [.text ['\n']] hproper (by simp) (by decide +kernel)
  obtain ⟨nodes, hload⟩ := Option.isSome_iff_exists.mp
    (show (Yaml.load (labelLines ++ "abc123\n")).toOption.isSome = true by decide +kernel)
  rw [Result.toOption_eq_some] at hload
  obtain ⟨node, quoted, value, -, -, hvalue, -, -, hmanifests⟩ :=
    hfields _ nodes 0 sessionLabel htext hload (by decide) (by decide +kernel)
  obtain rfl : Json.string "abc123" = value := Except.ok.inj hvalue
  obtain ⟨all, hall⟩ := Option.isSome_iff_exists.mp
    (show (labelled "abc123").manifests.toOption.isSome = true by decide +kernel)
  rw [Result.toOption_eq_some] at hall
  obtain ⟨document, -, manifest, hmem, -, -, hstays⟩ := hmanifests all hall
  have hbeside : ¬ Manifest.GivesWay document sessionLabel := fun hgives => absurd hgives.2 (by decide)
  exact ⟨all, hall, manifest, hmem, hstays hbeside⟩

/-- An id that is written like an integer gives an integer, though the label is the placeholder as a whole. -/
theorem labelled_has_number : (Token.parse? "123").isSome ∧
    scalarAt? (labelled "123").template 0 sessionLabel = some (none, .plain, "$\x7bSESSION_ID\x7d") ∧
    (labelled "123").manifests.toOption.map (·.map (·.body.pointer? sessionLabel)) = some [some (.int 123)] := by
  refine ⟨by decide, by decide +kernel, by decide +kernel⟩

end SessionGate.Intercept.Plan
