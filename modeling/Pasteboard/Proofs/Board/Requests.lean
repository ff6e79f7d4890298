import Pasteboard.Exchange.Failure
import Pasteboard.Proofs.Board.Entries

/-!
# What the store answers, and what it changes

The boards that the four changing requests leave, and for each request when it is accepted. Reading
requests leave the board alone, as long as no entry is set to grow.
-/

namespace Pasteboard

namespace Board

variable {board : Board} {client : ClientId}

/-- The board with a session of the client. -/
def opened (board : Board) (client : ClientId) (requestor : Option WindowId) : Board :=
  { board with session := some (client, requestor), openSequence := board.sequence }

/-- The board without a session. -/
def closed (board : Board) : Board := { board with session := none }

/-- The board taken over by the client. -/
def claimed (board : Board) (client : ClientId) (owner : Option WindowId) : Board :=
  { board with
    entries := .empty, owner := owner, ownerClient := some client,
    sequence := board.sequence + 1 }

/-- The board with a payload put. -/
def stored (board : Board) (format : Format) (data : Bytes) : Board :=
  { board with entries := board.entries.insert format data, sequence := board.sequence + 1 }

/-- What is answered to the client that ends its session. -/
def farewell (board : Board) : CloseReply :=
  ⟨if board.sequence = board.openSequence then none else board.viewer, board.owner⟩

/-- The client may put: its session is open, or it acts for the owner. -/
def Admits (board : Board) (client : ClientId) : Prop :=
  board.isOpenBy client = true ∨ board.ownerClient = some client

/-- The board is open to a client that has its session, whatever window it named. -/
theorem isOpenBy_iff :
    board.isOpenBy client = true ↔ ∃ window, board.session = some (client, window) := by
  unfold isOpenBy
  split
  · rename_i holder window hsession
    rw [hsession]
    simp
  · rename_i hsession
    simp [hsession]

/-- A board that is open to a client has a session. -/
theorem isSome_session_of_isOpenBy (h : board.isOpenBy client = true) :
    board.session.isSome = true := by
  obtain ⟨window, hsession⟩ := isOpenBy_iff.1 h
  rw [hsession]
  rfl

/-- A board without a session is open to nobody. -/
theorem isOpenBy_eq_false_of_none (h : board.session = none) : board.isOpenBy client = false := by
  simp [isOpenBy, h]

/-- A second session is refused, whoever asks. -/
theorem handle_openSession_of_isSome (requestor : Option WindowId)
    (h : board.session.isSome = true) :
    board.handle client (.openSession requestor) = (.error .alreadyOpen, board) := by
  simp [handle, openSession, h]

/-- A session is opened if there is none, and the owner is named. -/
theorem handle_openSession_of_none (requestor : Option WindowId) (h : board.session = none) :
    board.handle client (.openSession requestor) =
      (.opened board.owner, board.opened client requestor) := by
  simp [handle, openSession, opened, h]

/-- The client that has the session may close it. -/
theorem handle_closeSession (h : board.isOpenBy client = true) :
    board.handle client .closeSession = (.closed board.farewell, board.closed) := by
  simp [handle, closeSession, closed, farewell, h]

/-- Nobody else may. -/
theorem handle_closeSession_of_not (h : board.isOpenBy client = false) :
    board.handle client .closeSession = (.error .notOpen, board) := by
  simp [handle, closeSession, h]

/-- The client that has the session may claim the board. -/
theorem handle_claimOwnership (owner : Option WindowId) (h : board.isOpenBy client = true) :
    board.handle client (.claimOwnership owner) = (.done, board.claimed client owner) := by
  simp [handle, claim, claimed, h]

/-- Nobody else may, and a refused claim empties nothing. -/
theorem handle_claimOwnership_of_not (owner : Option WindowId)
    (h : board.isOpenBy client = false) :
    board.handle client (.claimOwnership owner) = (.error .notOpen, board) := by
  simp [handle, claim, h]

/-- A put that is admitted is stored under any format but the null one. -/
theorem handle_put {format : Format} (data : Bytes) (h : board.Admits client)
    (hformat : format ≠ Format.null) :
    board.handle client (.put format data) = (.done, board.stored format data) := by
  rcases h with h | h
  · simp [handle, put, stored, h, hformat]
  · simp [handle, put, stored, h, hformat]

/-- A put that is refused leaves the board alone. -/
theorem handle_put_of_not {format : Format} (data : Bytes)
    (h : ¬ (board.Admits client ∧ format ≠ Format.null)) :
    ∃ status, board.handle client (.put format data) = (.error status, board) := by
  by_cases hadmits : board.Admits client
  · have hformat : format = Format.null :=
      Decidable.byContradiction fun hne => h ⟨hadmits, hne⟩
    rcases hadmits with hopen | howner
    · exact ⟨.invalidParameter, by simp [handle, put, hopen, hformat]⟩
    · exact ⟨.invalidParameter, by simp [handle, put, howner, hformat]⟩
  · simp only [Admits, not_or, Bool.not_eq_true] at hadmits
    exact ⟨.accessDenied, by simp [handle, put, hadmits.1, hadmits.2]⟩

/-- Getting leaves the board alone unless the entry is set to grow. -/
theorem handle_get_board (format : Format) (bufferLen : UInt32) (hgrowth : board.growth = []) :
    (board.handle client (.get format bufferLen)).2 = board := by
  simp only [handle, get, hgrowth]
  split
  · rfl
  · split
    · rfl
    · split <;> rfl

/-- Only the client that has the session gets payloads. -/
theorem handle_get_of_not_open (format : Format) (bufferLen : UInt32)
    (hopen : board.isOpenBy client = false) :
    board.handle client (.get format bufferLen) = (.error .accessDenied, board) := by
  simp [handle, get, hopen]

/-- A payload that fits is handed out with its size. -/
theorem handle_get_of_le {format : Format} {data : Bytes} {bufferLen : UInt32}
    (hopen : board.isOpenBy client = true) (hdata : board.entries.find? format = some data)
    (hfits : UInt32.ofNat data.length ≤ bufferLen) :
    (board.handle client (.get format bufferLen)).1 =
      .data ⟨.ok, data, UInt32.ofNat data.length, board.owner⟩ := by
  simp [handle, get, hopen, hdata, hfits]

/-- Of a payload that does not fit only the size is told. -/
theorem handle_get_of_not_le {format : Format} {data : Bytes} {bufferLen : UInt32}
    (hopen : board.isOpenBy client = true) (hdata : board.entries.find? format = some data)
    (hfits : ¬ UInt32.ofNat data.length ≤ bufferLen) :
    (board.handle client (.get format bufferLen)).1 =
      .data ⟨.overflow, [], UInt32.ofNat data.length, board.owner⟩ := by
  simp [handle, get, hopen, hdata, hfits]

/-- A placeholder is got like a payload, whatever the room. -/
theorem handle_get_of_missing {format : Format} {bufferLen : UInt32}
    (hopen : board.isOpenBy client = true)
    (hmissing : (board.entries.find? format).getD [] = []) :
    (board.handle client (.get format bufferLen)).1 =
      .data ⟨if (board.entries.find? format).isSome then .ok else .notFound, [], 0,
        board.owner⟩ := by
  cases hfind : board.entries.find? format with
  | none => simp [handle, get, hopen, hfind]
  | some payload =>
      obtain rfl : payload = [] := by simpa [hfind] using hmissing
      simp [handle, get, hopen, hfind]

end Board

namespace Request

/-- A request for the name of a format. -/
def IsNaming (request : Request) : Prop := ∃ format, request = .formatName format

/-- A request that the store counts as a change if it accepts it. -/
def isChange : Request → Bool
  | claimOwnership _ | put _ _ => true
  | _ => false

/-- A request that neither opens nor closes a session nor changes the contents. -/
def IsSteady : Request → Prop
  | openSession _ | closeSession | claimOwnership _ | put _ _ => False
  | _ => True

/-- A request that only asks for something. -/
def IsReading : Request → Prop
  | get _ _ | enumerateFormats _ | countFormats _ | listFormats | info | listeners
  | formatName _ => True
  | _ => False

/-- A request that only reads is steady. -/
theorem IsReading.isSteady {request : Request} (h : request.IsReading) : request.IsSteady := by
  cases request <;> trivial

end Request

/-- A reading request leaves the board alone, as long as no entry is set to grow. -/
theorem Board.handle_of_isReading {board : Board} {client : ClientId} {request : Request}
    (h : request.IsReading) (hgrowth : board.growth = []) :
    (board.handle client request).2 = board := by
  cases request with
  | get format bufferLen => exact handle_get_board format bufferLen hgrowth
  | countFormats | listFormats | info | listeners | formatName => rfl
  | enumerateFormats =>
      simp only [handle, enumerate]
      split <;> rfl
  | _ => exact False.elim h

/-- A steady request leaves the session and the count of changes alone. -/
theorem Board.handle_of_isSteady {board : Board} {client : ClientId} {request : Request}
    (h : request.IsSteady) :
    (board.handle client request).2.session = board.session ∧
      (board.handle client request).2.sequence = board.sequence ∧
      (board.handle client request).2.openSequence = board.openSequence := by
  cases request with
  | openSession | closeSession | claimOwnership | put => exact False.elim h
  | get format bufferLen =>
      simp only [handle, get]
      split
      · exact ⟨rfl, rfl, rfl⟩
      · split
        · exact ⟨rfl, rfl, rfl⟩
        · split
          · exact ⟨rfl, rfl, rfl⟩
          · split <;> exact ⟨rfl, rfl, rfl⟩
  | countFormats | listFormats | info | addListener | listeners | formatName =>
      exact ⟨rfl, rfl, rfl⟩
  | enumerateFormats =>
      simp only [handle, enumerate]
      split <;> exact ⟨rfl, rfl, rfl⟩
  | setViewer =>
      simp only [handle, setViewer]
      split
      · split <;> exact ⟨rfl, rfl, rfl⟩
      · exact ⟨rfl, rfl, rfl⟩
  | releaseOwner | removeListener =>
      simp only [handle, releaseOwner, removeListener]
      split <;> exact ⟨rfl, rfl, rfl⟩
  | registerFormat =>
      simp only [handle, registerFormat]
      split
      · exact ⟨rfl, rfl, rfl⟩
      · split <;> exact ⟨rfl, rfl, rfl⟩

/-- A steady request leaves the entries alone, unless it gets one. -/
theorem Board.handle_entries {board : Board} {client : ClientId} {request : Request}
    (h : request.IsSteady) (hget : ∀ format bufferLen, request ≠ .get format bufferLen) :
    (board.handle client request).2.entries = board.entries := by
  cases request with
  | openSession | closeSession | claimOwnership | put => exact False.elim h
  | get format bufferLen => exact False.elim (hget format bufferLen rfl)
  | countFormats | listFormats | info | addListener | listeners | formatName => rfl
  | enumerateFormats | releaseOwner | removeListener =>
      simp only [handle, enumerate, Board.releaseOwner, Board.removeListener]
      split <;> rfl
  | setViewer =>
      simp only [handle, Board.setViewer]
      split
      · split <;> rfl
      · rfl
  | registerFormat =>
      simp only [handle, Board.registerFormat]
      split
      · rfl
      · split <;> rfl

/-- Getting one leaves them alone as well, as long as none is set to grow. -/
theorem Board.handle_entries_of_growth {board : Board} {client : ClientId} {request : Request}
    (h : request.IsSteady) (hgrowth : board.growth = []) :
    (board.handle client request).2.entries = board.entries := by
  by_cases hget : ∃ format bufferLen, request = .get format bufferLen
  · obtain ⟨format, bufferLen, rfl⟩ := hget
    rw [handle_get_board format bufferLen hgrowth]
  · exact handle_entries h fun format bufferLen heq => hget ⟨format, bufferLen, heq⟩

/-- A request adds at most one to the count of changes, and only if it is a change. -/
theorem Board.handle_sequence (board : Board) (client : ClientId) (request : Request) :
    ∃ count, count ≤ [request].countP Request.isChange ∧
      (board.handle client request).2.sequence = board.sequence + UInt32.ofNat count := by
  -- Only claims and puts count, and they may be refused.
  have hsame : ∀ {later : Board}, later.sequence = board.sequence →
      ∃ count, count ≤ [request].countP Request.isChange ∧
        later.sequence = board.sequence + UInt32.ofNat count :=
    fun h => ⟨0, Nat.zero_le _, by simp [h]⟩
  cases request with
  | claimOwnership owner =>
      simp only [handle, claim]
      split
      · exact hsame rfl
      · exact ⟨1, Nat.le_refl 1, rfl⟩
  | put format data =>
      simp only [handle, put]
      split
      · exact hsame rfl
      · split
        · exact hsame rfl
        · exact ⟨1, Nat.le_refl 1, rfl⟩
  | openSession requestor =>
      apply hsame
      simp only [handle, Board.openSession]
      split <;> rfl
  | closeSession =>
      apply hsame
      simp only [handle, Board.closeSession]
      split <;> rfl
  | _ =>
      apply hsame
      refine (handle_of_isSteady ?_).2.1
      trivial

/-- No request sets an entry to grow. -/
theorem Board.handle_growth (board : Board) (client : ClientId) (request : Request) :
    (board.handle client request).2.growth = board.growth := by
  cases request with
  | openSession | closeSession | claimOwnership | enumerateFormats | releaseOwner
  | removeListener =>
      simp only [handle, Board.openSession, Board.closeSession, claim, enumerate,
        Board.releaseOwner, Board.removeListener]
      split <;> rfl
  | countFormats | listFormats | info | addListener | listeners | formatName => rfl
  | put | setViewer | registerFormat =>
      simp only [handle, Board.put, Board.setViewer, Board.registerFormat]
      split
      · first | rfl | (split <;> rfl)
      · first | rfl | (split <;> rfl)
  | get format bufferLen =>
      simp only [handle, Board.get]
      split
      · rfl
      · split
        · rfl
        · split
          · rfl
          · split <;> rfl

/-- Only a registration adds to the names of formats. -/
theorem Board.handle_names {board : Board} {client : ClientId} {request : Request}
    (h : ∀ name, request ≠ .registerFormat name) :
    (board.handle client request).2.names = board.names := by
  cases request with
  | registerFormat name => exact False.elim (h name rfl)
  | countFormats | listFormats | info | addListener | listeners | formatName => rfl
  | openSession | closeSession | claimOwnership | enumerateFormats | releaseOwner
  | removeListener =>
      simp only [handle, Board.openSession, Board.closeSession, claim, enumerate,
        Board.releaseOwner, Board.removeListener]
      split <;> rfl
  | put | setViewer =>
      simp only [handle, Board.put, Board.setViewer]
      split
      · first | rfl | (split <;> rfl)
      · first | rfl | (split <;> rfl)
  | get format bufferLen =>
      simp only [handle, Board.get]
      split
      · rfl
      · split
        · rfl
        · split
          · rfl
          · split <;> rfl

/-- The outcome of a request if the store is reached and understood: the store refuses the request
or answers it in kind. -/
def Request.Settles (request : Request) : Except StoreError Reply → Prop
  | .ok reply => reply.answers request = true
  | .error (.refused _) => True
  | .error (.transport _) => False

/-- The store refuses a request or answers it in kind. -/
theorem Board.handle_settles (board : Board) (client : ClientId) (request : Request) :
    request.Settles (board.handle client request).1.outcome := by
  cases request with
  | countFormats | listFormats | info | addListener | listeners | formatName => rfl
  | openSession | closeSession | claimOwnership | enumerateFormats | releaseOwner
  | removeListener =>
      simp only [handle, Board.openSession, Board.closeSession, claim, enumerate,
        Board.releaseOwner, Board.removeListener]
      split <;> first | rfl | trivial
  | put =>
      simp only [handle, Board.put]
      split
      · trivial
      · split <;> first | rfl | trivial
  | get =>
      simp only [handle, Board.get]
      split
      · trivial
      · split
        · rfl
        · split <;> rfl
  | setViewer =>
      simp only [handle, Board.setViewer]
      split
      · split <;> first | rfl | trivial
      · rfl
  | registerFormat =>
      simp only [handle, Board.registerFormat]
      split
      · rfl
      · split <;> first | rfl | trivial

end Pasteboard
