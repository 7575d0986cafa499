import TokenBridge.Table
import Mathlib.Data.List.Nodup

/-!
# Tables of lists

A table written from a list of pairs (`Table.ofList`) is determined by the list alone. Changing the value of one
key of such a table is the same as changing it in the list (`modify_ofList`), whatever the keys are; and where
the keys are distinct, looking a key up in the table is looking it up in the list (`get?_ofList`).
-/

namespace TokenBridge.Table

universe u v w

variable {κ : Type u} {ν : Type v} {μ : Type w}

theorem ext {s t : Table κ ν} (h : s.entries = t.entries) : s = t := by
  cases s; cases t; cases h; rfl

variable [DecidableEq κ]

/-- Writing a value commutes with changing every value. -/
theorem map_put (f : κ → ν → μ) (entries : List (κ × ν)) (key : κ) (value : ν) :
    (put entries key value).map (fun e => (e.1, f e.1 e.2)) =
      put (entries.map fun e => (e.1, f e.1 e.2)) key (f key value) := by
  induction entries with
  | nil => rfl
  | cons e rest ih =>
    obtain ⟨k, v⟩ := e
    by_cases h : k = key
    · subst h; simp [put]
    · simp [put, h, ih]

/-- Changing the value of a key that is not there changes nothing. -/
theorem map_of_notMem {entries : List (κ × ν)} {key : κ} (h : key ∉ entries.map Prod.fst) (f : ν → ν) :
    entries.map (fun e => (e.1, if e.1 = key then f e.2 else e.2)) = entries := by
  refine (List.map_congr_left fun e he => ?_).trans (List.map_id entries)
  rw [if_neg fun hk => h (List.mem_map.2 ⟨e, he, hk⟩)]
  rfl

/-- Writing what becomes of a key's value changes that entry in its place. -/
theorem put_of_find? {entries : List (κ × ν)} (h : (entries.map Prod.fst).Nodup) {key : κ} {value : ν}
    (hv : find? entries key = some value) (f : ν → ν) :
    put entries key (f value) = entries.map fun e => (e.1, if e.1 = key then f e.2 else e.2) := by
  induction entries with
  | nil => cases hv
  | cons e rest ih =>
    obtain ⟨k, v⟩ := e
    rw [List.map_cons, List.nodup_cons] at h
    by_cases hk : k = key
    · subst hk
      rw [find?, if_pos rfl, Option.some.injEq] at hv
      subst hv
      rw [put, if_pos rfl, List.map_cons, if_pos rfl, map_of_notMem h.1]
    · rw [find?, if_neg hk] at hv
      rw [put, if_neg hk, List.map_cons, if_neg hk, ih h.2 hv]

theorem find?_eq_none_iff {entries : List (κ × ν)} {key : κ} :
    find? entries key = none ↔ key ∉ entries.map Prod.fst := by
  induction entries with
  | nil => simp [find?]
  | cons e rest ih =>
    obtain ⟨k, v⟩ := e
    by_cases hk : k = key
    · simp [find?, hk]
    · simp [find?, hk, ih, Ne.symm hk]

/-- Changing the value of one key changes that entry in its place. -/
theorem entries_modify (t : Table κ ν) (key : κ) (f : ν → ν) :
    (t.modify key f).entries = t.entries.map fun e => (e.1, if e.1 = key then f e.2 else e.2) := by
  unfold modify
  split
  · next value hv => exact put_of_find? t.nodup hv f
  · next hv => exact (map_of_notMem (find?_eq_none_iff.1 hv) f).symm

theorem keys_modify (t : Table κ ν) (key : κ) (f : ν → ν) : (t.modify key f).keys = t.keys := by
  rw [keys, keys, entries_modify, List.map_map]
  rfl

theorem contains_insert {t : Table κ ν} {key k : κ} {value : ν} :
    (t.insert key value).contains k ↔ key = k ∨ t.contains k := by
  rw [contains, get?_insert]
  by_cases h : key = k <;> simp [h, contains]

/-! ### Tables written from a list -/

/-- The entries of a table after a list of pairs is written into it. -/
theorem entries_foldl_insert (entries : List (κ × ν)) (t : Table κ ν) :
    (entries.foldl (fun t e => t.insert e.1 e.2) t).entries =
      entries.foldl (fun es e => put es e.1 e.2) t.entries := by
  induction entries generalizing t with
  | nil => rfl
  | cons e rest ih => exact ih (t.insert e.1 e.2)

theorem entries_ofList (entries : List (κ × ν)) :
    (ofList entries).entries = entries.foldl (fun es e => put es e.1 e.2) [] :=
  entries_foldl_insert entries empty

/-- Changing every value before or after writing the list comes to the same. -/
theorem map_foldl_put (f : κ → ν → μ) (entries es : List (κ × ν)) :
    (entries.foldl (fun es e => put es e.1 e.2) es).map (fun e => (e.1, f e.1 e.2)) =
      (entries.map fun e => (e.1, f e.1 e.2)).foldl (fun es e => put es e.1 e.2)
        (es.map fun e => (e.1, f e.1 e.2)) := by
  induction entries generalizing es with
  | nil => rfl
  | cons e rest ih =>
    rw [List.foldl_cons, ih, map_put, List.map_cons, List.foldl_cons]

theorem modify_ofList (entries : List (κ × ν)) (key : κ) (f : ν → ν) :
    (ofList entries).modify key f =
      ofList (entries.map fun e => (e.1, if e.1 = key then f e.2 else e.2)) := by
  apply ext
  rw [entries_modify, entries_ofList, entries_ofList]
  exact map_foldl_put (fun k v => if k = key then f v else v) entries []

/-- A key without a value is written at the end. -/
theorem put_of_notMem {entries : List (κ × ν)} {key : κ} (h : key ∉ entries.map Prod.fst) (value : ν) :
    put entries key value = entries ++ [(key, value)] := by
  induction entries with
  | nil => rfl
  | cons e rest ih =>
    rw [List.map_cons, List.mem_cons, not_or] at h
    rw [put, if_neg (Ne.symm h.1), ih h.2, List.cons_append]

/-- Writing pairs with new and distinct keys puts them at the end, in their order. -/
theorem foldl_put_of_nodup {entries es : List (κ × ν)} (h : ((es ++ entries).map Prod.fst).Nodup) :
    entries.foldl (fun es e => put es e.1 e.2) es = es ++ entries := by
  induction entries generalizing es with
  | nil => rw [List.foldl_nil, List.append_nil]
  | cons e rest ih =>
    have hnew : e.1 ∉ es.map Prod.fst := by
      rw [List.map_append, List.nodup_append] at h
      exact fun hm => h.2.2 _ hm _ (by simp) rfl
    rw [List.foldl_cons, put_of_notMem hnew, ih (by simpa using h), List.append_assoc,
      List.singleton_append]

/-- Where the keys of a list are distinct, the table written from it has just its pairs. -/
theorem entries_ofList_of_nodup {entries : List (κ × ν)} (h : (entries.map Prod.fst).Nodup) :
    (ofList entries).entries = entries := by
  rw [entries_ofList, foldl_put_of_nodup (by simpa using h), List.nil_append]

/-- Where the keys of a list are distinct, looking a key up in the table is looking it up in the list. -/
theorem get?_ofList {entries : List (κ × ν)} (h : (entries.map Prod.fst).Nodup) (key : κ) :
    (ofList entries).get? key = find? entries key := by
  rw [get?, entries_ofList_of_nodup h]

/-- Looking up among pairs made from a list whose members carry their key. -/
theorem find?_map {γ : Type w} (key : γ → κ) (value : γ → ν) (l : List γ) (k : κ) :
    find? (l.map fun x => (key x, value x)) k = (l.find? (key · = k)).map value := by
  induction l with
  | nil => rfl
  | cons x rest ih =>
    rw [List.map_cons, find?, List.find?_cons]
    by_cases h : key x = k
    · simp [h]
    · simp [h, ih]

/-- Where the keys of the members of a list are distinct, a key finds the member that has it. -/
theorem find?_key_of_mem {γ : Type w} {key : γ → κ} {l : List γ} (h : (l.map key).Nodup) {x : γ}
    (hx : x ∈ l) : l.find? (key · = key x) = some x := by
  cases hf : l.find? (key · = key x) with
  | none => exact (List.find?_eq_none.1 hf x hx (by simp)).elim
  | some y =>
    have hkey : key y = key x := by simpa using List.find?_some hf
    rw [List.inj_on_of_nodup_map h (List.mem_of_find?_eq_some hf) hx hkey]

omit [DecidableEq κ] in
/-- The keys of pairs made from some members of a list are among the members' keys. -/
theorem keys_filterMap_sublist {γ : Type w} (key : γ → κ) (value : γ → Option ν) (l : List γ) :
    ((l.filterMap fun x => (value x).map fun v => (key x, v)).map Prod.fst).Sublist (l.map key) := by
  induction l with
  | nil => exact .slnil
  | cons x rest ih =>
    cases hx : value x with
    | none => simpa [hx] using ih.cons (key x)
    | some v => simpa [hx] using ih.cons_cons (key x)

/-- Looking up among pairs made from some members of a list, where the members' keys are distinct. -/
theorem find?_filterMap {γ : Type w} {key : γ → κ} {l : List γ} (h : (l.map key).Nodup)
    (value : γ → Option ν) (k : κ) :
    find? (l.filterMap fun x => (value x).map fun v => (key x, v)) k =
      (l.find? (key · = k)).bind value := by
  induction l with
  | nil => rfl
  | cons x rest ih =>
    rw [List.map_cons, List.nodup_cons] at h
    by_cases hk : key x = k
    · rw [List.find?_cons_of_pos (by simpa using hk)]
      cases hx : value x with
      | none =>
        rw [List.filterMap_cons_none (by simp [hx]), find?_eq_none_iff.2]
        · simp [hx]
        · exact fun hm => h.1 (hk ▸ (keys_filterMap_sublist key value rest).subset hm)
      | some v => simp [hx, find?, hk]
    · rw [List.find?_cons_of_neg (by simpa using hk), ← ih h.2]
      cases hx : value x with
      | none => simp [hx]
      | some v => simp [hx, find?, hk]

theorem mem_entries_of_find? {entries : List (κ × ν)} {key : κ} {value : ν} (h : find? entries key = some value) :
    (key, value) ∈ entries := by
  induction entries with
  | nil => cases h
  | cons e rest ih =>
    obtain ⟨k, v⟩ := e
    by_cases hk : k = key
    · rw [find?, if_pos hk] at h
      cases h
      exact hk ▸ List.mem_cons_self
    · rw [find?, if_neg hk] at h
      exact List.mem_cons_of_mem _ (ih h)

theorem mem_values_of_get? {t : Table κ ν} {key : κ} {value : ν} (h : t.get? key = some value) :
    value ∈ t.values :=
  List.mem_map.2 ⟨_, mem_entries_of_find? h, rfl⟩

/-- A table written from those of some distinct keys that have a value. -/
theorem get?_ofList_filterMap {keys : List κ} (h : keys.Nodup) (value : κ → Option ν) (k : κ) :
    (ofList (keys.filterMap fun key => (value key).map fun v => (key, v))).get? k =
      if k ∈ keys then value k else none := by
  have hkeys : (keys.map id).Nodup := by rwa [List.map_id]
  refine (get?_ofList ((keys_filterMap_sublist id value keys).nodup hkeys) k).trans
    ((find?_filterMap hkeys value k).trans ?_)
  by_cases hk : k ∈ keys
  · rw [if_pos hk, show keys.find? (id · = k) = some k from find?_key_of_mem hkeys hk, Option.bind_some]
  · have hnone : keys.find? (id · = k) = none :=
      List.find?_eq_none.2 fun other hother hsame => hk (of_decide_eq_true hsame ▸ hother)
    rw [if_neg hk, hnone, Option.bind_none]

end TokenBridge.Table
