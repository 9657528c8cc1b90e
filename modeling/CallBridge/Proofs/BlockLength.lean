import CallBridge.Proofs.Invocations
import CallBridge.Proofs.Layout
import CallBridge.Proofs.RegisterAllocation
import CallBridge.Proofs.SlotMap

/-!
How long an argument block has to be. Arguments do not lie in a block in their order, and yet the
length that they need depends only on how many there are of each register class. Validation turns
away exactly the parameters that need more than a block has, and decoding fails exactly where the
block ends too early.
-/

namespace CallBridge

/-- How many of the listed kinds travel in registers of a class. -/
def classCount (r : RegisterClass) (kinds : List Kind) : Nat :=
  (kinds.map Kind.registerClass).count r

/-- Arguments of the listed kinds for which no register is left. -/
def spilledWords (kinds : List Kind) : Nat :=
  (classCount .integer kinds - intRegisterCount) + (classCount .float kinds - floatRegisterCount)

/-- The length of the shortest block that holds arguments of the listed kinds. -/
def neededWords (kinds : List Kind) : Nat :=
  if 0 < spilledWords kinds then floatRegisterCount + intRegisterCount + spilledWords kinds
  else if 0 < classCount .integer kinds then floatRegisterCount + classCount .integer kinds
  else classCount .float kinds

/-- The words of a block that hold arguments fill each of its three parts from the start. -/
theorem mem_frameIndices {kinds : List Kind} {j : Nat} :
    j ∈ frameIndices kinds ↔ j < min (classCount .float kinds) floatRegisterCount ∨
      (floatRegisterCount ≤ j ∧
        j < floatRegisterCount + min (classCount .integer kinds) intRegisterCount) ∨
      (floatRegisterCount + intRegisterCount ≤ j ∧
        j < floatRegisterCount + intRegisterCount + spilledWords kinds) :=
  mem_frameIndex_placements (kinds.map Kind.registerClass) j

/-- All arguments lie within a block exactly if it has the needed length. -/
theorem frameIndices_lt_iff (kinds : List Kind) (n : Nat) :
    (∀ j ∈ frameIndices kinds, j < n) ↔ neededWords kinds ≤ n := by
  have h6 : intRegisterCount = 6 := rfl
  have h8 : floatRegisterCount = 8 := rfl
  have hspilled : spilledWords kinds =
      (classCount .integer kinds - 6) + (classCount .float kinds - 8) := rfl
  simp only [mem_frameIndices, neededWords, h6, h8]
  constructor
  · intro hall
    -- The last argument of the last part that is not empty lies at the end.
    split_ifs with hs hi
    · have := hall (8 + 6 + spilledWords kinds - 1) (by omega)
      omega
    · have := hall (8 + classCount .integer kinds - 1) (by omega)
      omega
    · by_contra hn
      have := hall (classCount .float kinds - 1) (by omega)
      omega
  · intro hle j hj
    split_ifs at hle <;> omega

theorem frameIndices_length (kinds : List Kind) : (frameIndices kinds).length = kinds.length := by
  simp [frameIndices, placements]

namespace Signature

theorem scalars_scalar (index : Nat) (kinds : List Kind) :
    scalars index (kinds.map .scalar) = .ok kinds := by
  induction kinds generalizing index with
  | nil => rfl
  | cons k ks ih =>
    rw [List.map_cons, scalars]
    simp only [TypeDesc.kind?, ih, Except.map]

/-- The signature of a callback that takes scalars is what its description says. -/
theorem of_eq_ok {β : Type} {c : Callback β} {params : List Kind} {result : Option Kind}
    {signature : Signature} (hparams : c.params = params.map .scalar)
    (hresults : c.results = result.toList.map .scalar) (h : of c = .ok signature) :
    signature = { params, result } ∧ ∀ k, result = some k → k.isReturnable = true := by
  rw [of, ofTypes, hparams, hresults, scalars_scalar] at h
  cases result with
  | none =>
    simp only [bind, Except.bind, Option.toList, List.map_nil, resultOf] at h
    split_ifs at h
    cases h
    exact ⟨rfl, nofun⟩
  | some k =>
    simp only [bind, Except.bind, Option.toList, List.map_cons, List.map_nil, resultOf,
      TypeDesc.kind?] at h
    by_cases hk : k.isReturnable = true
    · rw [if_pos hk] at h
      dsimp only at h
      split_ifs at h
      cases h
      refine ⟨rfl, ?_⟩
      rintro k' ⟨⟩
      exact hk
    · rw [if_neg hk] at h
      cases h

theorem fits_iff (kinds : List Kind) : fits kinds = true ↔ neededWords kinds ≤ maxFrameWords := by
  rw [← frameIndices_lt_iff]
  simp [fits]

/-- Scalar parameters with acceptable results are turned away for their length only. -/
theorem of_eq_ite {β : Type} {c : Callback β} {kinds : List Kind} {result : Option Kind}
    (hparams : c.params = kinds.map .scalar) (hresults : resultOf c.results = .ok result) :
    of c = if neededWords kinds ≤ maxFrameWords then .ok { params := kinds, result }
      else .error (.tooManyParameters kinds.length) := by
  simp only [of, ofTypes, hparams, scalars_scalar, hresults, bind, Except.bind, fits_iff]

theorem needed_of_ok {β : Type} {c : Callback β} {signature : Signature}
    (h : of c = .ok signature) : neededWords signature.params ≤ maxFrameWords := by
  rw [of, ofTypes] at h
  cases hs : scalars 0 c.params with
  | error e => simp [hs, bind, Except.bind] at h
  | ok kinds =>
    cases hr : resultOf c.results with
    | error e => simp [hs, hr, bind, Except.bind] at h
    | ok result =>
      simp only [hs, hr, bind, Except.bind] at h
      split_ifs at h with hfits
      cases h
      exact (fits_iff kinds).1 hfits

end Signature

namespace Binding

/-- Reading with a record of the words that are taken from the block, in their order. -/
def fetchAll (m : Memory) (block : Block) :
    List (Kind × Nat) → List Nat × Except Violation (List Value)
  | [] => ([], .ok [])
  | (k, index) :: rest =>
    match block.words[index]? with
    | some w =>
      let r := fetchAll m block rest
      (index :: r.1, r.2.map (Value.ofWord m k w :: ·))
    | none => ([], .error (.blockOverrun index block.words.length))

/-- The record apart, this is how a block is read. -/
theorem fetchAll_snd (m : Memory) (block : Block) (l : List (Kind × Nat)) :
    (fetchAll m block l).2 = readAll m block l := by
  induction l with
  | nil => rfl
  | cons entry rest ih =>
    obtain ⟨k, index⟩ := entry
    cases hw : block.words[index]? with
    | none => simp only [fetchAll, readAll, Block.word, hw, bind, Except.bind]
    | some w =>
      simp only [fetchAll, readAll, Block.word, hw, bind, Except.bind, ih]
      cases readAll m block rest <;> rfl

variable {β : Type} {b : Binding β} {m : Memory} {block : Block}

/-- Words of the block that decoding takes, in their order. -/
def fetched (m : Memory) (b : Binding β) (block : Block) : List Nat :=
  (fetchAll m block (b.signature.params.zip (frameIndices b.signature.params))).1

theorem fetchAll_inside {l : List (Kind × Nat)}
    (h : ∀ j ∈ l.map Prod.snd, j < block.words.length) :
    ∃ vs, fetchAll m block l = (l.map Prod.snd, .ok vs) := by
  induction l with
  | nil => exact ⟨[], rfl⟩
  | cons entry rest ih =>
    obtain ⟨k, index⟩ := entry
    obtain ⟨hindex, hrest⟩ := List.forall_mem_cons.1 h
    obtain ⟨vs, hvs⟩ := ih hrest
    refine ⟨Value.ofWord m k block.words[index] :: vs, ?_⟩
    simp only [fetchAll, List.getElem?_eq_getElem hindex, hvs, List.map_cons, Except.map]

/-- Reading stops at the first word that is not in the block. -/
theorem fetchAll_outside {l : List (Kind × Nat)} {pre post : List Nat} {index : Nat}
    (hl : l.map Prod.snd = pre ++ index :: post) (hpre : ∀ j ∈ pre, j < block.words.length)
    (hindex : block.words.length ≤ index) :
    fetchAll m block l = (pre, .error (.blockOverrun index block.words.length)) := by
  induction pre generalizing l with
  | nil =>
    obtain ⟨⟨k, _⟩, rest, rfl, rfl, -⟩ := List.map_eq_cons_iff.1 hl
    simp only [fetchAll, List.getElem?_eq_none hindex]
  | cons j pre ih =>
    obtain ⟨⟨k, _⟩, rest, rfl, rfl, hrest⟩ := List.map_eq_cons_iff.1 hl
    obtain ⟨hj, hpre⟩ := List.forall_mem_cons.1 hpre
    simp only [fetchAll, List.getElem?_eq_getElem hj, ih hrest hpre, Except.map]

theorem map_snd_zip_frameIndices (kinds : List Kind) :
    (kinds.zip (frameIndices kinds)).map Prod.snd = frameIndices kinds :=
  List.map_snd_zip (frameIndices_length kinds).le

theorem decode_inside (m : Memory)
    (h : neededWords b.signature.params ≤ block.words.length) :
    (∃ args, b.decode m block = .ok args) ∧
      b.fetched m block = frameIndices b.signature.params := by
  have hall := (frameIndices_lt_iff b.signature.params block.words.length).2 h
  rw [← map_snd_zip_frameIndices] at hall
  obtain ⟨args, hargs⟩ := fetchAll_inside (m := m) hall
  refine ⟨⟨args, ?_⟩, ?_⟩
  · rw [decode, ← fetchAll_snd, hargs]
  · rw [fetched, hargs, map_snd_zip_frameIndices]

theorem decode_outside (m : Memory)
    (h : block.words.length < neededWords b.signature.params) :
    ∃ pre index post, frameIndices b.signature.params = pre ++ index :: post ∧
      (∀ j ∈ pre, j < block.words.length) ∧ block.words.length ≤ index ∧
      b.decode m block = .error (.blockOverrun index block.words.length) ∧
      b.fetched m block = pre := by
  have hnot : ¬ ∀ j ∈ frameIndices b.signature.params, j < block.words.length := by
    rw [frameIndices_lt_iff]
    omega
  cases hfind : (frameIndices b.signature.params).find? (block.words.length ≤ ·) with
  | none =>
    rw [List.find?_eq_none] at hfind
    exact absurd (fun j hj => by simpa using hfind j hj) hnot
  | some index =>
    obtain ⟨hindex, pre, post, hsplit, hpre⟩ := List.find?_eq_some_iff_append.1 hfind
    have hpre' : ∀ j ∈ pre, j < block.words.length := fun j hj => by simpa using hpre j hj
    have hindex' : block.words.length ≤ index := by simpa using hindex
    have hfetch := fetchAll_outside (m := m)
      ((map_snd_zip_frameIndices b.signature.params).trans hsplit) hpre' hindex'
    refine ⟨pre, index, post, hsplit, hpre', hindex', ?_, ?_⟩
    · rw [decode, ← fetchAll_snd, hfetch]
    · rw [fetched, hfetch]

end Binding

/-- A callback with scalar parameters and acceptable results is accepted exactly if one argument
block holds all parameters, and a block of any length is decoded exactly if it is long enough. If it
is too short, only words of the block are taken, and the panic names its length and the first
parameter in their order that lies outside. Whatever is registered over any table can therefore be
decoded from the blocks that entry points hand over. -/
theorem Signature.accepted_iff_decodable {β : Type} {c : Callback β} {kinds : List Kind}
    {result : Option Kind} (hparams : c.params = kinds.map .scalar)
    (hresults : resultOf c.results = .ok result) :
    (Signature.of c = if neededWords kinds ≤ maxFrameWords then .ok { params := kinds, result }
      else .error (.tooManyParameters kinds.length)) ∧
    (∀ b : Binding β, b.held.callback = c → Signature.of c = .ok b.signature →
      ∀ {σ : Type} (x : Execution β σ) (st : σ) (block : Block),
        let n := block.words.length
        ((∃ args, b.decode (x.memory st) block = .ok args) ↔ neededWords kinds ≤ n) ∧
        (∀ j ∈ b.fetched (x.memory st) block, j < n) ∧
        (n < neededWords kinds → ∃ pre index post, frameIndices kinds = pre ++ index :: post ∧
          (∀ j ∈ pre, j < n) ∧ n ≤ index ∧ b.fetched (x.memory st) block = pre ∧
          b.decode (x.memory st) block = .error (.blockOverrun index n) ∧
          b.invoke x block st =
            ⟨.error (.panic (.violation (.blockOverrun index n))), st,
              [.event (.ofViolation (.blockOverrun index n))]⟩)) ∧
    ∀ {table : EntryTable} {n : Nat} {t : Trampoline β}, Trampoline.create table n = .ok t →
      ∀ ops k s, (Trampoline.run ops t).2.registry.slot? k = some s → ∀ (m : Memory) (block : Block),
        block.words.length = maxFrameWords → ∃ args, s.binding.decode m block = .ok args := by
  have hof := of_eq_ite hparams hresults
  refine ⟨hof, ?_, ?_⟩
  · intro b _ hb σ x st block n
    have hsignature : b.signature.params = kinds := by
      rw [hof] at hb
      split_ifs at hb
      rw [← Except.ok.inj hb]
    by_cases hn : neededWords kinds ≤ n
    · obtain ⟨hok, hfetched⟩ :=
        Binding.decode_inside (x.memory st) (hsignature ▸ hn : neededWords b.signature.params ≤ n)
      refine ⟨iff_of_true hok hn, ?_, fun hlt => absurd hn (Nat.not_le.2 hlt)⟩
      rw [hfetched, hsignature]
      exact (frameIndices_lt_iff kinds n).2 hn
    · obtain ⟨pre, index, post, hsplit, hpre, hindex, hdecode, hfetched⟩ :=
        Binding.decode_outside (x.memory st)
          (hsignature ▸ Nat.not_le.1 hn : n < neededWords b.signature.params)
      refine ⟨iff_of_false ?_ hn, ?_, fun _ => ?_⟩
      · rintro ⟨args, hargs⟩
        rw [hdecode] at hargs
        contradiction
      · rw [hfetched]
        exact hpre
      · exact ⟨pre, index, post, hsignature ▸ hsplit, hpre, hindex, hfetched, hdecode,
          Binding.invoke_of_violation hdecode⟩
  · intro table n t hcreate ops k s hs m block hblock
    obtain ⟨-, rfl⟩ := Trampoline.create_eq_ok hcreate
    have hguarded := (Trampoline.empty_sound table n).guarded.run ops
    have hneeded := needed_of_ok (hguarded.validated k s hs)
    exact (Binding.decode_inside m (hblock ▸ hneeded)).1

/-- Two integers and a float behind them, which lies below both: a block of nine words breaks off at
the second integer, and one of ten holds all three. -/
theorem Signature.accepted_iff_decodable_three_kinds :
    let c : Callback Unit := { params := [.scalar .i64, .scalar .i64, .scalar .f64], results := []
                               body := () }
    let b : Binding Unit :=
      { held := { callback := c }, signature := { params := [.i64, .i64, .f64], result := none } }
    let block (n : Nat) : Block := { words := List.replicate n 0 }
    Signature.of c = .ok b.signature ∧ b.decode {} (block 9) = .error (.blockOverrun 9 9) ∧
      b.fetched {} (block 9) = [8] ∧ ∃ args, b.decode {} (block 10) = .ok args := by
  intro c b block
  have hresults : resultOf c.results = .ok none := rfl
  have hparams : c.params = [.i64, .i64, .f64].map .scalar := rfl
  obtain ⟨hof, hreads, -⟩ := accepted_iff_decodable hparams hresults
  have hb : Signature.of c = .ok b.signature := hof
  let x : Execution Unit Unit := { memory := fun _ => {}, body := fun _ _ => pure none }
  obtain ⟨-, -, houtside⟩ := hreads b rfl hb x () (block 9)
  obtain ⟨hinside, -, -⟩ := hreads b rfl hb x () (block 10)
  obtain ⟨pre, index, post, hsplit, hpre, hindex, hfetched, hdecode, -⟩ := houtside (by decide)
  have hindices : frameIndices [.i64, .i64, .f64] = [8, 9, 0] := by decide
  have hlength : (block 9).words.length = 9 := rfl
  rw [hindices] at hsplit
  rw [hlength] at hpre hindex hdecode
  -- The second word is the first that is not in the block.
  obtain _ | ⟨j, _ | ⟨j', pre⟩⟩ := pre
  · simp only [List.nil_append, List.cons.injEq] at hsplit
    omega
  · simp only [List.cons_append, List.nil_append, List.cons.injEq] at hsplit
    obtain ⟨rfl, rfl, -⟩ := hsplit
    exact ⟨hb, hdecode, hfetched, hinside.2 (by decide)⟩
  · have hlt := hpre j' (by simp)
    simp only [List.cons_append, List.cons.injEq] at hsplit
    omega

end CallBridge
