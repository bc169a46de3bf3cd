import Mathlib.Data.Finset.Card
import QnnEp.Foundation.Numbered

namespace QnnEp.NodeName
open Numbered

def trySuffixes (qnnNodeNames : Finset String) (requestedName : String) :
    List Nat → Except String (String × Finset String)
  | [] => .error "Failed to allocate a unique QNN node name."
  | suffix :: suffixes =>
    if numbered requestedName suffix ∉ qnnNodeNames then
      .ok (numbered requestedName suffix,insert (numbered requestedName suffix) qnnNodeNames)
    else trySuffixes qnnNodeNames requestedName suffixes

def makeUniqueQnnNodeName (qnnNodeNames : Finset String) (requestedName : String) :
    Except String (String × Finset String) :=
  if requestedName ∉ qnnNodeNames then .ok (requestedName,insert requestedName qnnNodeNames)
  else
    let maxSuffix := qnnNodeNames.card + 1
    trySuffixes qnnNodeNames requestedName (List.range' 2 (maxSuffix + 1 - 2))

theorem numbered_ne (key : String) (n : Nat) : numbered key n ≠ key := by
  intro h
  have hlength := congrArg String.length h
  have hone : "_".length = 1 := rfl
  simp only [numbered,String.length_append] at hlength
  omega

theorem trySuffixes_ok {qnnNodeNames : Finset String} {requestedName : String} {suffixes : List Nat}
    (h : ∃ suffix ∈ suffixes, numbered requestedName suffix ∉ qnnNodeNames) :
    ∃ name, name ∉ qnnNodeNames ∧
      trySuffixes qnnNodeNames requestedName suffixes = .ok (name,insert name qnnNodeNames) := by
  induction suffixes with
  | nil => simp at h
  | cons suffix suffixes ih =>
    unfold trySuffixes
    by_cases hfree : numbered requestedName suffix ∉ qnnNodeNames
    · exact ⟨_,hfree,if_pos hfree⟩
    · rw [if_neg hfree]
      obtain ⟨other,hother,hotherFree⟩ := h
      rcases List.mem_cons.mp hother with rfl | hrest
      · exact absurd hotherFree hfree
      · exact ih ⟨other,hrest,hotherFree⟩

theorem exists_free_suffix {qnnNodeNames : Finset String} {requestedName : String}
    (h : requestedName ∈ qnnNodeNames) :
    ∃ suffix ∈ List.range' 2 qnnNodeNames.card, numbered requestedName suffix ∉ qnnNodeNames := by
  by_contra hnone
  have hinjective : Function.Injective (numbered requestedName) :=
    fun _ _ heq => (numbered_inj.mp heq).2
  have hnodup : (requestedName :: (List.range' 2 qnnNodeNames.card).map (numbered requestedName)).Nodup := by
    refine List.nodup_cons.mpr ⟨?_,(List.nodup_range' 1).map hinjective⟩
    simp [numbered_ne]
  have hsubset : (requestedName :: (List.range' 2 qnnNodeNames.card).map
      (numbered requestedName)).toFinset ⊆ qnnNodeNames := by
    intro name hname
    rcases List.mem_cons.mp (List.mem_toFinset.mp hname) with rfl | hname
    · exact h
    · obtain ⟨suffix,hsuffix,rfl⟩ := List.mem_map.mp hname
      exact by_contra fun hfree => hnone ⟨suffix,hsuffix,hfree⟩
  have hcard := Finset.card_le_card hsubset
  rw [List.toFinset_card_of_nodup hnodup] at hcard
  simp only [List.length_cons,List.length_map,List.length_range'] at hcard
  omega

theorem makeUniqueQnnNodeName_fresh (qnnNodeNames : Finset String) (requestedName : String) :
    ∃ name, name ∉ qnnNodeNames ∧
      makeUniqueQnnNodeName qnnNodeNames requestedName = .ok (name,insert name qnnNodeNames) := by
  unfold makeUniqueQnnNodeName
  by_cases hused : requestedName ∉ qnnNodeNames
  · exact ⟨requestedName,hused,if_pos hused⟩
  · rw [if_neg hused]
    exact trySuffixes_ok (exists_free_suffix (not_not.mp hused))

end QnnEp.NodeName
