import SessionGate.Proofs.Intercept.SessionField
import SessionGate.Proofs.Yaml.Stream

/-! # Manifests of all documents, or none

* `Plan.Rejects`: a document that gives no manifest, though it is not null.
* `Plan.manifests_all_or_nothing`: one document that is rejected leaves no manifest of the others. Without one
  there is a manifest for each document that is not null, in the order of the documents.
-/
namespace SessionGate.Intercept.Plan
set_option autoImplicit false
open Cluster (Manifest)
open Result (exists_error_iff mapM_eq_ok)
open Yaml (Node)

variable {plan : Plan} {text : String} {nodes : List Node} {node : Node}

/-- The document does not convert, or it is not null and gives no manifest. -/
def Rejects (plan : Plan) (node : Node) : Prop :=
  node.Refused ∨ ∃ document failure, node.toJson = .ok document ∧ document.isNull = false ∧
    Manifest.ofJson document plan.namespaceName = .error failure

theorem rejects_iff : plan.Rejects node ↔ ¬ plan.Accepts node := by
  constructor
  · rintro (hrefused | ⟨document, failure, hdocument, hnull, hfailure⟩) ⟨accepted, haccepted, hmanifest⟩
    · exact (Node.toJson_isOk node).mp ⟨accepted, haccepted⟩ hrefused
    · obtain rfl := Except.ok.inj (hdocument.symm.trans haccepted)
      exact exists_error_iff.mp ⟨failure, hfailure⟩ (hmanifest hnull)
  · intro hnot
    by_cases hrefused : node.Refused
    · exact .inl hrefused
    · obtain ⟨document, hdocument⟩ := (Node.toJson_isOk node).mpr hrefused
      have hfails : ¬ (document.isNull = false →
          ∃ manifest, Manifest.ofJson document plan.namespaceName = .ok manifest) :=
        fun h => hnot ⟨document, hdocument, h⟩
      obtain ⟨hnull, hmanifest⟩ := Classical.not_imp.mp hfails
      obtain ⟨failure, hfailure⟩ := exists_error_iff.mpr hmanifest
      exact .inr ⟨document, failure, hdocument, hnull, hfailure⟩

theorem manifests_fail_iff (htext : plan.text = .ok text) (hload : Yaml.load text = .ok nodes) :
    (∃ failure, plan.manifests = .error failure) ↔ ∃ node ∈ nodes, plan.Rejects node := by
  rw [exists_error_iff, manifests_isOk htext hload]
  simp only [rejects_iff, not_forall, exists_prop]

theorem manifests_all_or_nothing (hload : Yaml.load text = .ok nodes) :
    ((∃ failure, Yaml.documents text = .error failure) ↔ ∃ node ∈ nodes, node.Refused) ∧
    ((∀ node ∈ nodes, ¬ node.Refused) → ∃ values,
      List.Forall₂ (fun node json => Node.toJson node = .ok json) nodes values ∧
        Yaml.documents text = .ok (values.filter (!·.isNull))) ∧
    ∀ plan : Plan, plan.text = .ok text →
      ((∃ failure, plan.manifests = .error failure) ↔ ∃ node ∈ nodes, plan.Rejects node) ∧
      ∀ all, plan.manifests = .ok all → ∃ documents, Yaml.documents text = .ok documents ∧
        List.Forall₂ (fun document manifest => Manifest.ofJson document plan.namespaceName = .ok manifest)
          documents all := by
  obtain ⟨hrefused, hconverts⟩ := Yaml.documents_of_load hload
  refine ⟨hrefused, hconverts, fun plan htext => ⟨manifests_fail_iff htext hload, fun all hall => ?_⟩⟩
  obtain ⟨values, hvalues, hmanifests⟩ := (manifests_eq_ok htext hload).mp hall
  exact ⟨_, Yaml.documents_eq_ok.mpr ⟨nodes, values, hload, hvalues, rfl⟩, mapM_eq_ok.mp hmanifests⟩

/-- A Service, a document without content, and a last document. -/
def streamed (last : String) : Plan where
  namespaceName := "default"
  session := "abc123"
  template := "apiVersion: v1\nkind: Service\nmetadata:\n  name: web\n---\n---\n" ++ last
  wait := ⟨0⟩
  echoDeploy := "carta-echo"

def service : Node :=
  .mapping [(.text "apiVersion", .text "v1"), (.text "kind", .text "Service"),
    (.text "metadata", .mapping [(.text "name", .text "web")])]

/-- The key of the last document is null. -/
theorem manifests_all_or_nothing_last : Yaml.load (streamed "[{~: 1}]\n").template =
      .ok [service, .null, .sequence [.mapping [(.null, .int 1)]]] ∧
    (∃ failure, Yaml.documents (streamed "[{~: 1}]\n").template = .error failure) ∧
    ∃ failure, (streamed "[{~: 1}]\n").manifests = .error failure := by
  have hload : Yaml.load (streamed "[{~: 1}]\n").template =
      .ok [service, .null, .sequence [.mapping [(.null, .int 1)]]] :=
    Result.toOption_eq_some.mp (by decide +kernel)
  have htext : (streamed "[{~: 1}]\n").text = .ok (streamed "[{~: 1}]\n").template := by decide +kernel
  have hkey : ¬ Node.IsName .null := by rintro ⟨⟩
  have hlast : Node.Refused (.sequence [.mapping [(.null, .int 1)]]) :=
    .item List.mem_cons_self (.key List.mem_cons_self hkey)
  obtain ⟨hrefused, -, hplans⟩ := manifests_all_or_nothing hload
  exact ⟨hload, hrefused.mpr ⟨_, by simp, hlast⟩, (hplans _ htext).1.mpr ⟨_, by simp, .inl hlast⟩⟩

end SessionGate.Intercept.Plan
