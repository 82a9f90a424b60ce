-- Dictionaries: words under texts, in the order of the texts.

namespace FramedLines

namespace Dictionary

-- Texts are ordered by their code points, which is the order of their UTF-8 forms too.
def Ordered (entries : List (String × UInt32)) : Prop :=
  entries.Pairwise fun one next => one.1 < next.1

-- Puts an entry in its place. It takes the place of an entry under the same key.
def insertEntry (key : String) (value : UInt32) : List (String × UInt32) → List (String × UInt32)
  | [] => [(key, value)]
  | entry :: rest =>
      if key < entry.1 then (key, value) :: entry :: rest
      else if entry.1 < key then entry :: insertEntry key value rest
      else (key, value) :: rest

theorem mem_insertEntry {key : String} {value : UInt32} {entries : List (String × UInt32)}
    {entry : String × UInt32} (h : entry ∈ insertEntry key value entries) :
    entry = (key, value) ∨ entry ∈ entries := by
  induction entries with
  | nil => exact Or.inl (by simpa [insertEntry] using h)
  | cons head rest ih =>
      simp only [insertEntry] at h
      split at h
      · simpa using h
      · split at h
        · rcases List.mem_cons.mp h with he | hr
          · exact Or.inr (he ▸ List.mem_cons_self)
          · exact (ih hr).imp_right (List.mem_cons_of_mem _)
        · rcases List.mem_cons.mp h with he | hr
          · exact Or.inl he
          · exact Or.inr (List.mem_cons_of_mem _ hr)

theorem ordered_insertEntry (key : String) (value : UInt32) {entries : List (String × UInt32)}
    (h : Ordered entries) : Ordered (insertEntry key value entries) := by
  induction entries with
  | nil => simp [insertEntry, Ordered]
  | cons head rest ih =>
      obtain ⟨hh, hr⟩ := List.pairwise_cons.mp h
      simp only [insertEntry]
      split
      · next hlt =>
          refine List.pairwise_cons.mpr ⟨?_, h⟩
          intro entry he
          rcases List.mem_cons.mp he with rfl | he
          · exact hlt
          · exact String.lt_trans hlt (hh entry he)
      · next hnot =>
          split
          · next hlt =>
              refine List.pairwise_cons.mpr ⟨?_, ih hr⟩
              intro entry he
              rcases mem_insertEntry he with rfl | he
              · exact hlt
              · exact hh entry he
          · next hnot' =>
              have hk : key = head.1 :=
                String.le_antisymm (String.not_lt.mp hnot') (String.not_lt.mp hnot)
              refine List.pairwise_cons.mpr ⟨?_, hr⟩
              intro entry he
              exact hk ▸ hh entry he

end Dictionary

structure Dictionary where
  entries : List (String × UInt32) := []
  ordered : Dictionary.Ordered entries := by exact List.Pairwise.nil
deriving DecidableEq

namespace Dictionary

def empty : Dictionary := {}

def insert (dictionary : Dictionary) (key : String) (value : UInt32) : Dictionary :=
  ⟨insertEntry key value dictionary.entries, ordered_insertEntry key value dictionary.ordered⟩

-- Of two entries under one key the later one counts.
def ofEntries (entries : List (String × UInt32)) : Dictionary :=
  entries.foldl (fun dictionary entry => dictionary.insert entry.1 entry.2) empty

end Dictionary

end FramedLines
