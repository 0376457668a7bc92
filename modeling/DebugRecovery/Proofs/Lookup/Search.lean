import DebugRecovery.Proofs.Lookup
import DebugRecovery.Proofs.Reconstruction

/-!
# Searches for lists of queries

A search never fails as a whole. What a query becomes is a function of the
query and the image alone, a symbol or a failure and never both, so that lists
of queries can be split and permuted at will. Symbols and failures are kept in
two lists, each in the order of the queries.
-/

set_option autoImplicit false

namespace DebugRecovery

namespace Territory

/-- The symbol that a query finds. -/
def symbol? (territory : Territory) (query : SymbolQuery) : Option (Symbol Empty) :=
  match territory.locate query with
  | .ok symbol => some symbol
  | .error _ => none

/-- Why a query finds nothing. -/
def failure? (territory : Territory) (query : SymbolQuery) : Option LookupFailure :=
  match territory.locate query with
  | .ok _ => none
  | .error failure => some failure

/-- The symbol names a section of the table. In the range that the section has in the space of the
query's address, the address is as far from the start as the symbol tells. -/
def Stands (territory : Territory) (query : SymbolQuery) (symbol : Symbol Empty) : Prop :=
  ∃ address, query.address territory.data territory.imageBase = .ok address ∧
    ∃ entry ∈ territory.sections, entry.index = symbol.sectionIndex ∧
      0 ≤ symbol.offset ∧ symbol.offset < (entry.span address.space).size ∧
      (entry.span address.space).start + symbol.offset = address.value

theorem locate_stands {territory : Territory} {query : SymbolQuery} {symbol : Symbol Empty}
    (found : territory.locate query = .ok symbol) :
    symbol.name = query.name ∧ territory.Stands query symbol := by
  obtain ⟨address, place, resolved, mapped, rfl⟩ :=
    (locate_ok_iff territory query symbol).mp found
  obtain ⟨entry, member, inside, rfl⟩ := Address.place_some mapped
  have bounds := Span.offset_bounds inside
  refine ⟨rfl, address, resolved, entry, member, rfl, bounds.1, bounds.2, ?_⟩
  simp only [SymbolQuery.symbolAt, Address.placeFrom]
  omega

theorem answer_cases (territory : Territory) (query : SymbolQuery) :
    (∃ symbol, territory.locate query = .ok symbol ∧ territory.symbol? query = some symbol ∧
        territory.failure? query = none) ∨
      (∃ failure, territory.locate query = .error failure ∧ territory.symbol? query = none ∧
        territory.failure? query = some failure) := by
  unfold symbol? failure?
  cases territory.locate query with
  | ok symbol => exact Or.inl ⟨symbol, rfl, rfl, rfl⟩
  | error failure => exact Or.inr ⟨failure, rfl, rfl, rfl⟩

theorem locate_all_eq (territory : Territory) (queries : List SymbolQuery) :
    territory.locateAll queries =
      ⟨queries.filterMap territory.symbol?, queries.filterMap territory.failure?⟩ := by
  induction queries with
  | nil => rfl
  | cons query queries induction =>
      unfold locateAll at induction ⊢
      rcases territory.answer_cases query with
        ⟨symbol, found, some, none⟩ | ⟨failure, failed, none, some⟩
      · simp only [List.map_cons, found, SearchResult.ofOutcomes, induction,
          List.filterMap_cons, some, none]
      · simp only [List.map_cons, failed, SearchResult.ofOutcomes, induction,
          List.filterMap_cons, some, none]

theorem locate_all_count (territory : Territory) (queries : List SymbolQuery) :
    (territory.locateAll queries).symbols.length + (territory.locateAll queries).failures.length =
      queries.length := by
  rw [locate_all_eq]
  induction queries with
  | nil => rfl
  | cons query queries induction =>
      rcases territory.answer_cases query with ⟨_, _, some, none⟩ | ⟨_, _, none, some⟩
      all_goals
        simp only [List.filterMap_cons, some, none, List.length_cons] at induction ⊢
        omega

end Territory

/-- Two searches, one after the other. -/
def SearchResult.append (front back : SearchResult) : SearchResult :=
  ⟨front.symbols ++ back.symbols, front.failures ++ back.failures⟩

namespace Territory

theorem locate_all_append (territory : Territory) (front back : List SymbolQuery) :
    territory.locateAll (front ++ back) =
      (territory.locateAll front).append (territory.locateAll back) := by
  simp only [locate_all_eq, List.filterMap_append, SearchResult.append]

theorem locate_all_perm (territory : Territory) {queries others : List SymbolQuery}
    (permuted : queries.Perm others) :
    (territory.locateAll queries).symbols.Perm (territory.locateAll others).symbols ∧
      (territory.locateAll queries).failures.Perm (territory.locateAll others).failures := by
  simp only [locate_all_eq]
  exact ⟨permuted.filterMap _, permuted.filterMap _⟩

/-- A search answers every query once, whatever becomes of the other queries. -/
theorem search_answers_each_query (territory : Territory) :
    (∀ (queries : List SymbolQuery) (state : Reconstruction), ∃ later,
      Reconstruction.locate territory queries state = .ok (territory.locateAll queries) later) ∧
    (∀ queries, territory.locateAll queries =
      ⟨queries.filterMap territory.symbol?, queries.filterMap territory.failure?⟩) ∧
    (∀ queries, (territory.locateAll queries).symbols.length +
      (territory.locateAll queries).failures.length = queries.length) ∧
    (∀ query,
      (∃ symbol, territory.symbol? query = some symbol ∧ territory.failure? query = none ∧
        symbol.name = query.name ∧ territory.Stands query symbol) ∨
      (∃ failure, territory.symbol? query = none ∧ territory.failure? query = some failure ∧
        (failure = .malformed query.pattern query.name ∨ failure = .absent query.name ∨
          failure = .unmapped query.name query.pattern))) ∧
    (∀ front back, territory.locateAll (front ++ back) =
      (territory.locateAll front).append (territory.locateAll back)) ∧
    (∀ queries others, queries.Perm others →
      (territory.locateAll queries).symbols.Perm (territory.locateAll others).symbols ∧
        (territory.locateAll queries).failures.Perm (territory.locateAll others).failures) := by
  refine ⟨fun queries state => ⟨_, Reconstruction.locate_eq territory queries state⟩,
    territory.locate_all_eq, territory.locate_all_count, ?_,
    territory.locate_all_append, fun _ _ => territory.locate_all_perm⟩
  intro query
  rcases territory.answer_cases query with
    ⟨symbol, found, some, none⟩ | ⟨failure, failed, none, some⟩
  · obtain ⟨named, stands⟩ := locate_stands found
    exact Or.inl ⟨symbol, some, none, named, stands⟩
  · exact Or.inr ⟨failure, none, some, locate_error failed⟩

def mixedImage : Territory :=
  { data := ⟨#[0x55, 0x90]⟩, imageBase := 0, sections := [⟨1, ⟨0x1000, 0x1002⟩, ⟨0, 2⟩, ".text"⟩] }

def mixedQueries : List SymbolQuery :=
  [{ name := "present", pattern := "90" }, { name := "missing", pattern := "C3" }]

theorem search_of_mixed_queries :
    (mixedImage.locateAll mixedQueries).symbols = [⟨"present", 1, 1, none⟩] ∧
      (mixedImage.locateAll mixedQueries).failures = [.absent "missing"] ∧
      (mixedImage.locateAll mixedQueries.reverse).symbols.Perm
        (mixedImage.locateAll mixedQueries).symbols := by
  obtain ⟨_, _, _, _, _, permuted⟩ := mixedImage.search_answers_each_query
  refine ⟨by decide +kernel, by decide +kernel, ?_⟩
  exact (permuted mixedQueries.reverse mixedQueries mixedQueries.reverse_perm).1

end Territory

end DebugRecovery
