import DebugRecovery.Proofs.Lookup.Search
import DebugRecovery.Proofs.Signature

/-!
# Data behind the image

A file may carry more bytes behind those of the image. Every read of a lookup
that succeeds lies inside the shorter file, and the first match stays the first
one, so that a symbol that is found without the bytes is found with them, at the
same place. A lookup that fails may succeed with them.
-/

set_option autoImplicit false

namespace DebugRecovery

theorem word_append {data : ByteArray} (more : ByteArray) {offset word : Nat}
    (read : word? data offset = some word) : word? (data ++ more) offset = some word := by
  unfold word? at read ⊢
  split at read
  · rename_i inside
    have longer : offset + 4 ≤ (data ++ more).size := by
      rw [ByteArray.size_append]
      omega
    rw [dif_pos longer, ByteArray.getElem_append_left (by omega),
      ByteArray.getElem_append_left (by omega), ByteArray.getElem_append_left (by omega),
      ByteArray.getElem_append_left (by omega)]
    exact read
  · contradiction

namespace SymbolQuery

variable {query : SymbolQuery} {data : ByteArray} (more : ByteArray) {imageBase : Int}

theorem start_append {offset : Nat} (found : query.start data = .ok offset) :
    query.start (data ++ more) = .ok offset := by
  unfold start at found ⊢
  cases compiled : Signature.ofText query.pattern with
  | error failure =>
      rw [compiled] at found
      contradiction
  | ok tokens =>
      simp only [compiled] at found ⊢
      cases searched : tokens.find? data with
      | none =>
          rw [searched] at found
          contradiction
      | some first =>
          rw [searched] at found
          rw [Signature.find_append more searched]
          exact found

theorem dereference_append {start word : Nat} {distance : Int}
    (read : dereference? data start distance = some word) :
    dereference? (data ++ more) start distance = some word := by
  obtain ⟨moved, shifted, there⟩ := Option.bind_eq_some_iff.mp read
  exact Option.bind_eq_some_iff.mpr ⟨moved, shifted, word_append more there⟩

theorem chain_append {offsets : List Int} {start last : Nat}
    (followed : offsets.foldlM (dereference? data) start = some last) :
    offsets.foldlM (dereference? (data ++ more)) start = some last := by
  induction offsets generalizing start with
  | nil => exact followed
  | cons distance rest induction =>
      rw [List.foldlM_cons] at followed ⊢
      obtain ⟨next, step, others⟩ := Option.bind_eq_some_iff.mp followed
      exact Option.bind_eq_some_iff.mpr ⟨next, dereference_append more step, induction others⟩

theorem displace_append {field target : Nat} (displaced : query.displace? data field = some target) :
    query.displace? (data ++ more) field = some target := by
  obtain ⟨displacement, read, moved⟩ := Option.bind_eq_some_iff.mp displaced
  exact Option.bind_eq_some_iff.mpr ⟨displacement, word_append more read, moved⟩

theorem follow_append {start : Nat} {address : Address}
    (followed : query.follow? data imageBase start = some address) :
    query.follow? (data ++ more) imageBase start = some address := by
  obtain ⟨last, chain, followed⟩ := Option.bind_eq_some_iff.mp followed
  obtain ⟨field, moved, followed⟩ := Option.bind_eq_some_iff.mp followed
  refine Option.bind_eq_some_iff.mpr ⟨last, chain_append more chain, ?_⟩
  refine Option.bind_eq_some_iff.mpr ⟨field, moved, ?_⟩
  -- Only a query with a displacement reads once more.
  cases displacing : query.ripRelative with
  | false =>
      simp only [displacing, Bool.false_eq_true, ↓reduceIte] at followed ⊢
      exact followed
  | true =>
      simp only [displacing, ↓reduceIte] at followed ⊢
      obtain ⟨target, displaced, based⟩ := Option.bind_eq_some_iff.mp followed
      exact Option.bind_eq_some_iff.mpr ⟨target, displace_append more displaced, based⟩

theorem address_append {address : Address}
    (resolved : query.address data imageBase = .ok address) :
    query.address (data ++ more) imageBase = .ok address := by
  by_cases searched : query.startRva = 0
  · cases begun : query.start data with
    | error missing =>
        rw [address_of_failure searched begun] at resolved
        contradiction
    | ok offset =>
        have followed := (address_ok_iff_follow searched begun address).mp resolved
        exact (address_ok_iff_follow searched (start_append more begun) address).mpr
          (follow_append more followed)
  · rw [address_of_override searched] at resolved ⊢
    exact resolved

end SymbolQuery

namespace Territory

/-- The image with more bytes behind its data. -/
def extended (territory : Territory) (more : ByteArray) : Territory :=
  { territory with data := territory.data ++ more }

theorem locate_extended {territory : Territory} (more : ByteArray) {query : SymbolQuery}
    {symbol : Symbol Empty} (found : territory.locate query = .ok symbol) :
    (territory.extended more).locate query = .ok symbol := by
  obtain ⟨address, place, resolved, mapped, same⟩ :=
    (locate_ok_iff territory query symbol).mp found
  exact (locate_ok_iff (territory.extended more) query symbol).mpr
    ⟨address, place, SymbolQuery.address_append more resolved, mapped, same⟩

theorem symbol_extended {territory : Territory} (more : ByteArray) {query : SymbolQuery}
    {symbol : Symbol Empty} (found : territory.symbol? query = some symbol) :
    (territory.extended more).symbol? query = some symbol := by
  rcases territory.answer_cases query with ⟨other, located, same, _⟩ | ⟨_, _, none, _⟩
  · rw [found] at same
    obtain rfl := Option.some.inj same
    unfold symbol?
    rw [locate_extended more located]
  · rw [found] at none
    contradiction

/-- Whatever is appended to the data, a symbol that is found stays where it is, and a search finds
what it found before, in the same order. -/
theorem found_symbols_stay (territory : Territory) (more : ByteArray) :
    (∀ query symbol, territory.locate query = .ok symbol →
      (territory.extended more).locate query = .ok symbol) ∧
    (∀ queries, (territory.locateAll queries).symbols.Sublist
      ((territory.extended more).locateAll queries).symbols) := by
  refine ⟨fun query symbol => locate_extended more, fun queries => ?_⟩
  simp only [locate_all_eq]
  induction queries with
  | nil => exact List.Sublist.slnil
  | cons query queries induction =>
      cases found : territory.symbol? query with
      | none =>
          rw [List.filterMap_cons_none found]
          exact induction.trans ((List.sublist_cons_self query queries).filterMap _)
      | some symbol =>
          rw [List.filterMap_cons_some found,
            List.filterMap_cons_some (symbol_extended more found)]
          exact induction.cons_cons symbol

def shortImage : Territory :=
  { data := ⟨#[0x90, 0x55, 0x03, 0x00, 0x00, 0x00]⟩, imageBase := 0
    sections := [⟨1, ⟨0, 6⟩, ⟨0, 6⟩, ".text"⟩] }

def chainQuery : SymbolQuery := { name := "last", pattern := "55", offsets := [1] }

/-- A signature that first matches across the old end of the file. -/
def straddlingQuery : SymbolQuery := { name := "behind", pattern := "00 55" }

theorem found_symbol_stays_before_overlay :
    shortImage.locate chainQuery = .ok ⟨"last", 1, 3, none⟩ ∧
      (shortImage.extended ⟨#[0x55, 0x00]⟩).locate chainQuery = .ok ⟨"last", 1, 3, none⟩ ∧
      shortImage.locate straddlingQuery = .error (.absent "behind") ∧
      (shortImage.extended ⟨#[0x55, 0x00]⟩).locate straddlingQuery =
        .ok ⟨"behind", 1, 5, none⟩ := by
  have found : shortImage.locate chainQuery = .ok ⟨"last", 1, 3, none⟩ := by decide +kernel
  refine ⟨found, ?_, by decide +kernel, by decide +kernel⟩
  exact (shortImage.found_symbols_stay ⟨#[0x55, 0x00]⟩).1 chainQuery _ found

end Territory

end DebugRecovery
