import Pageflow.Json.Reader

/-! Ordered tables: a key that is set is found again with its last value, and each key stands
once, also in every object that is read. -/
namespace Pageflow.Json

variable {α : Type} {key : String} {value : α} {fields : List (String × α)}

theorem lookup_cons_of_ne {name k : String} (h : name ≠ k) :
    ((k, value) :: fields).lookup name = fields.lookup name := by
  have hkey : (name == k) = false := by simpa using h
  rw [List.lookup_cons, hkey]

theorem lookup_setKey (name : String) :
    (setKey key value fields).lookup name =
      if name = key then some value else fields.lookup name := by
  induction fields with
  | nil => by_cases h : name = key <;> simp [setKey, lookup_cons_of_ne, h]
  | cons field rest ih =>
    obtain ⟨k, v⟩ := field
    by_cases hk : k = key
    · subst hk
      by_cases h : name = k <;> simp [setKey, lookup_cons_of_ne, h]
    · by_cases h : name = k
      · subst h
        simp [setKey, hk]
      · simp only [setKey, hk, ↓reduceIte, lookup_cons_of_ne h, ih]

theorem setKey_map {β : Type} (f : α → β) (key : String) (value : α) (fields : List (String × α)) :
    setKey key (f value) (fields.map (Prod.map id f)) =
      (setKey key value fields).map (Prod.map id f) := by
  induction fields with
  | nil => rfl
  | cons field rest ih =>
    obtain ⟨k, v⟩ := field
    by_cases hk : k = key
    · simp [setKey, hk]
    · simp [setKey, hk, ih]

theorem mem_setKey {name : String} (h : name ∈ (setKey key value fields).map Prod.fst) :
    name = key ∨ name ∈ fields.map Prod.fst := by
  induction fields with
  | nil => exact .inl (by simpa [setKey] using h)
  | cons field rest ih =>
    obtain ⟨k, v⟩ := field
    by_cases hk : k = key
    · simp_all [setKey]
    · simp only [setKey, hk, ↓reduceIte, List.map_cons, List.mem_cons] at h ⊢
      grind

theorem nodup_setKey (h : (fields.map Prod.fst).Nodup) :
    ((setKey key value fields).map Prod.fst).Nodup := by
  induction fields with
  | nil => simp [setKey]
  | cons field rest ih =>
    obtain ⟨k, v⟩ := field
    rw [List.map_cons, List.nodup_cons] at h
    by_cases hk : k = key
    · subst hk
      simpa only [setKey, ↓reduceIte, List.map_cons, List.nodup_cons] using h
    · simp only [setKey, hk, ↓reduceIte, List.map_cons, List.nodup_cons]
      refine ⟨fun hmem => ?_, ih h.2⟩
      rcases mem_setKey hmem with heq | hold
      · exact hk heq
      · exact h.1 hold

/-- Of the values set under one key the last one stands. -/
theorem lookup_foldl_setKey (pairs fields : List (String × α)) (name : String) :
    (pairs.foldl (fun fields pair => setKey pair.1 pair.2 fields) fields).lookup name =
      (pairs.reverse ++ fields).lookup name := by
  induction pairs generalizing fields with
  | nil => rfl
  | cons pair rest ih =>
    obtain ⟨k, v⟩ := pair
    rw [List.foldl_cons, ih, List.reverse_cons, List.append_assoc, List.lookup_append,
      List.lookup_append, lookup_setKey, List.singleton_append]
    by_cases h : name = k
    · rw [if_pos h, h, List.lookup_cons_self]
    · rw [if_neg h, lookup_cons_of_ne h]

theorem nodup_foldl_setKey (pairs : List (String × α)) {fields : List (String × α)}
    (h : (fields.map Prod.fst).Nodup) :
    ((pairs.foldl (fun fields pair => setKey pair.1 pair.2 fields) fields).map Prod.fst).Nodup := by
  induction pairs generalizing fields with
  | nil => exact h
  | cons pair rest ih => exact ih (nodup_setKey h)

/-- A table laid over another one, key by key: `join` says what becomes of a value over what
stood there. -/
def layOver (join : Option Json → Json → Json) (lower upper : List (String × Json)) :
    List (String × Json) :=
  upper.foldl (fun fields (key, value) => setKey key (join (fields.lookup key) value) fields) lower

section

variable {join : Option Json → Json → Json} {lower upper : List (String × Json)}

/-- What is laid over it changes a value once, by the one entry of its key. -/
theorem lookup_layOver (h : (upper.map Prod.fst).Nodup) (name : String) :
    (layOver join lower upper).lookup name =
      (upper.lookup name).elim (lower.lookup name) fun value =>
        some (join (lower.lookup name) value) := by
  induction upper generalizing lower with
  | nil => rfl
  | cons entry rest ih =>
    obtain ⟨key, value⟩ := entry
    rw [List.map_cons, List.nodup_cons] at h
    have hstep : layOver join lower ((key, value) :: rest) =
        layOver join (setKey key (join (lower.lookup key) value) lower) rest := rfl
    rw [hstep, ih h.2, lookup_setKey]
    by_cases hname : name = key
    · subst hname
      have hrest : rest.lookup name = none := by
        rw [List.lookup_eq_none_iff]
        intro entry hmem
        have hne : name ≠ entry.1 := fun heq => h.1 (List.mem_map.2 ⟨entry, hmem, heq.symm⟩)
        simpa using hne
      simp [hrest]
    · rw [if_neg hname, lookup_cons_of_ne hname]

theorem nodup_layOver (h : (lower.map Prod.fst).Nodup) :
    ((layOver join lower upper).map Prod.fst).Nodup := by
  induction upper generalizing lower with
  | nil => exact h
  | cons entry rest ih => exact ih (nodup_setKey h)

end

/-! ## Objects that are read -/

/-- The object that `j` is, if it is one, holds each key once. -/
def KeysOnce (j : Json) : Prop := ∀ fields, j = .obj fields → (fields.map Prod.fst).Nodup

theorem keysOnce_of_readNumber {cs rest : List Char} {pos pos' : Nat} {j : Json}
    (h : readNumber cs pos = .ok (j, rest, pos')) : j.KeysOnce := by
  rintro fields rfl
  unfold readNumber at h
  split at h
  extract_lets whole at h
  split at h
  · cases h
  split at h
  split at h
  split at h
  · split at h <;> cases h
  · cases h

theorem keysOnce_of_word {cs rest : List Char} {word : String} {j : Json}
    (h : words.findSome? (fun (word, j) => (Text.dropWord? word.toList cs).map (word, j, ·)) =
      some (word, j, rest)) : j.KeysOnce := by
  obtain ⟨⟨_, _⟩, hmem, hword⟩ := List.exists_of_findSome?_eq_some h
  obtain ⟨_, _, heq⟩ := Option.map_eq_some_iff.1 hword
  rintro fields rfl
  simp only [Prod.mk.injEq] at heq
  simp_all [words]

theorem keysOnce_table (pairs : List (String × Json)) : (Json.obj (table pairs)).KeysOnce := by
  rintro _ ⟨⟩
  exact nodup_foldl_setKey pairs List.nodup_nil

/-- By induction on the fuel: only the last key of an object makes one, with `table`. -/
theorem keysOnce_of_readAt {fuel depth pos pos' : Nat} {place : Place} {cs rest : List Char}
    {j : Json} (h : readAt fuel depth place cs pos = .ok (j, rest, pos')) : j.KeysOnce := by
  induction fuel generalizing depth place cs pos j rest pos' with
  | zero => cases place <;> simp [readAt, fail] at h
  | succ fuel ih =>
    cases place with
    | value =>
      unfold readAt at h
      split at h
      · simp only [Except.map] at h
        rintro fields rfl
        split at h <;> simp at h
      · split at h
        · cases h
        · dsimp only at h
          split at h
          · cases h; exact keysOnce_table []
          · exact ih h
      · split at h
        · cases h
        · dsimp only at h
          split at h
          · cases h; rintro _ ⟨⟩
          · exact ih h
      · split at h
        · next hword => cases h; exact keysOnce_of_word hword
        · exact keysOnce_of_readNumber h
    | item seen => 
      unfold readAt at h
      simp only [bind, Except.bind] at h
      split at h
      · cases h
      · split at h
        · cases h; rintro _ ⟨⟩
        · exact ih h
        · cases h
    | key seen => 
      unfold readAt at h
      simp only [bind, Except.bind] at h
      split at h
      · split at h
        · cases h
        · split at h
          · split at h
            · cases h
            · split at h
              · cases h; exact keysOnce_table _
              · exact ih h
              · cases h
          · cases h
      · cases h

theorem keysOnce_of_read? {source : String} {j : Json} (h : read? source = some j) :
    j.KeysOnce := by
  unfold read? read at h
  split at h
  · split at h
    · simp [fail, Except.toOption] at h
    · simp only [bind, Except.bind] at h
      split at h
      · simp [Except.toOption] at h
      · next hread =>
        split at h
        · simp only [Except.toOption, Option.some.injEq] at h
          subst h
          exact keysOnce_of_readAt hread
        · simp [fail, Except.toOption] at h
  · simp [fail, Except.toOption] at h

end Pageflow.Json
