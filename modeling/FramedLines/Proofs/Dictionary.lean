import FramedLines.Value.Dictionary

-- A dictionary is what its entries make, put in one after the other.

namespace FramedLines.Dictionary

-- A key above all others goes to the end.
theorem insertEntry_of_last {entries : List (String × UInt32)} {key : String} {value : UInt32}
    (hlast : ∀ entry ∈ entries, entry.1 < key) :
    insertEntry key value entries = entries ++ [(key, value)] := by
  induction entries with
  | nil => rfl
  | cons entry entries ih =>
      have hlt := hlast entry (by simp)
      have hrest := ih fun other hother => hlast other (by simp [hother])
      rw [insertEntry, if_neg (String.lt_asymm hlt), if_pos hlt, hrest,
        List.cons_append]

theorem entries_foldl_insert {entries : List (String × UInt32)} {dictionary : Dictionary}
    (hordered : Ordered (dictionary.entries ++ entries)) :
    (entries.foldl (fun dictionary entry => dictionary.insert entry.1 entry.2) dictionary).entries =
      dictionary.entries ++ entries := by
  induction entries generalizing dictionary with
  | nil => simp
  | cons entry entries ih =>
      have hlast : ∀ other ∈ dictionary.entries, other.1 < entry.1 := by
        intro other hother
        exact (List.pairwise_append.mp hordered).2.2 other hother entry (by simp)
      have hinsert : (dictionary.insert entry.1 entry.2).entries = dictionary.entries ++ [entry] :=
        insertEntry_of_last hlast
      rw [List.foldl_cons, ih (by rwa [hinsert, List.append_assoc]), hinsert, List.append_assoc,
        List.singleton_append]

-- The entries come in order, so each goes to the end and none takes the place of another.
theorem ofEntries_entries (dictionary : Dictionary) :
    ofEntries dictionary.entries = dictionary := by
  have hentries : (ofEntries dictionary.entries).entries = dictionary.entries :=
    @entries_foldl_insert dictionary.entries .empty dictionary.ordered
  cases hof : ofEntries dictionary.entries
  cases dictionary
  simpa [hof] using hentries

end FramedLines.Dictionary
