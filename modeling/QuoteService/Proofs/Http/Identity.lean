import QuoteService.Launch
import QuoteService.Proofs.Http.Reply

/-! How a service names itself. Validation takes any two texts for the server and the media type, but
header fields are Latin-1: a service with other texts starts, and then answers nothing. -/
namespace QuoteService
open Text

/-- Sources that name a server and a media type, and the least else that validation asks for. -/
def Settings.Sources.naming (server media : String) : Settings.Sources where
  arguments := [("port", .integer 8000), ("database_url", .string "sqlite:///wisdom.db"),
    ("server_name", .string server), ("media_type", .string media)]
  environment := []
  file := []

/-- The settings that such sources give: all others have their defaults. -/
def Settings.naming (server media : String) : Settings where
  host := "0.0.0.0"
  port := 8000
  databaseUrl := "sqlite:///wisdom.db"
  databasePoolSize := 20
  databaseMaxOverflow := 10
  docsUrl := "http://gophergala.github.io/wisdom"
  serverName := server
  mediaType := media
  logLevel := "INFO"
  logFormat := "json"

/-- Validation takes the texts of the fixed fields as they come. -/
theorem Settings.check_naming (server media : String) :
    Settings.check (.naming server media) = .ok (.naming server media) := by
  have url : Settings.checkDatabaseUrl (.string "sqlite:///wisdom.db") =
      .ok "sqlite:///wisdom.db" := by
    decide
  -- no other check has more to do than to look its setting up
  have target : Settings.field (.naming server media) "database_url" Settings.checkDatabaseUrl
      none = .ok "sqlite:///wisdom.db" := by
    change Checked.under _ (Settings.checkDatabaseUrl _) = _
    rw [url]
    rfl
  rw [Settings.check, Settings.known, target]
  rfl

namespace Http

/-- A service sends its fixed fields on every response, under every request whose address can be read
and whatever fails below, exactly if both its texts are Latin-1. Else it sends nothing, though it was
started: the failure of the last resort is left to the server. -/
theorem Service.answers_iff_sendable (settings : Settings) (database : Option Statements)
    (draw : Assembly.Draw) (r : Request) (received : r.Received) :
    let s := Service.ofSettings settings
    let latin1 := settings.serverName.toList.all isLatin1 ∧ settings.mediaType.toList.all isLatin1
    ((∃ sent, (s.serve database draw r).response = some sent ∧
      Header.values "server" sent.headers = [settings.serverName] ∧
      Header.values "x-wisdom-media-type" sent.headers = [settings.mediaType] ∧
      Header.values "content-type" sent.headers = ["application/json; charset=utf-8"]) ↔ latin1) ∧
    (¬ latin1 → (s.serve database draw r).response = none ∧
      ∃ text ∈ [settings.serverName, settings.mediaType], ∃ first last,
        (s.serve database draw r).raised = some (.unencodable text first last)) ∧
    ∀ server media, ∃ sources accepted, Settings.check sources = .ok accepted ∧
      accepted.serverName = server ∧ accepted.mediaType = media := by
  intro s latin1
  have texts : latin1 ↔ s.Sendable := ⟨fun h => ⟨h.1, h.2⟩, fun h => ⟨h.serverName, h.mediaType⟩⟩
  obtain ⟨url, address⟩ := r.address_received received
  have unsent (other : ¬ latin1) :=
    s.serve_unsendable (fun sendable => other (texts.2 sendable)) database draw address
  refine ⟨⟨fun ⟨sent, answer, _⟩ => ?_, fun plain => ?_⟩, unsent, fun server media =>
    ⟨_, _, Settings.check_naming server media, rfl, rfl⟩⟩
  · by_contra other
    rw [(unsent other).1] at answer
    cases answer
  · obtain ⟨sent, answer, stamped⟩ := s.serve_sendable (texts.1 plain) database draw address
    exact ⟨sent, answer, stamped.server, stamped.mediaType, stamped.contentType⟩

/-- One service with two names, of which one has a check mark, over a database that refuses every
statement. -/
theorem Service.answers_iff_sendable_marked :
    let settings (server : String) : Settings := .naming server "wisdom.V1"
    let statements := (Statements.onTables Tables.empty 0 []).failingAt 0
      (.fault .operational (some "disk"))
    let r : Request := ⟨"GET", "/v1/tags", "callback=f", some "a b", "http", some ⟨"::1", 8000⟩, none⟩
    let serve (server : String) := (Service.ofSettings (settings server)).serve (some statements)
      (Assembly.Draw.pick 0) r
    r.Received ∧
      (∃ sent, (serve "Wisdom").response = some sent ∧
        Header.values "server" sent.headers = ["Wisdom"]) ∧
      (serve "Wisdom ✓").response = none := by
  intro settings statements r serve
  have received : r.Received := ⟨by decide, ⟨"::1", 8000⟩, rfl, .literal (by decide)⟩
  have law (server : String) := Service.answers_iff_sendable (settings server) (some statements)
    (Assembly.Draw.pick 0) r received
  refine ⟨received, ?_, ((law "Wisdom ✓").2.1 (by decide)).1⟩
  obtain ⟨sent, answer, named, -⟩ := (law "Wisdom").1.2 (by decide)
  exact ⟨sent, answer, named⟩

/-- A service that was accepted, and answers a request for its tags with nothing. -/
theorem Service.serve_checkMark :
    let settings : Settings := .naming "Wisdom ✓" "wisdom.V1"
    let r : Request := ⟨"GET", "/v1/tags", "", some "test", "http", some ⟨"test", 80⟩, none⟩
    let statements := Statements.onTables Tables.empty 0 []
    (∃ sources, Settings.check sources = .ok settings) ∧
      ((Service.ofSettings settings).serve (some statements) (Assembly.Draw.pick 0) r).response =
        none := by
  intro settings r statements
  have received : r.Received :=
    ⟨by decide, ⟨"test", 80⟩, rfl, .name (by decide) (List.all_eq_true.1 (by decide))⟩
  have unsendable : ¬ (Service.ofSettings settings).Sendable := fun h =>
    absurd h.serverName (by decide)
  obtain ⟨url, address⟩ := r.address_received received
  refine ⟨⟨.naming "Wisdom ✓" "wisdom.V1", Settings.check_naming _ _⟩, ?_⟩
  exact (Service.serve_unsendable unsendable (some statements) (Assembly.Draw.pick 0) address).1

end Http
end QuoteService
