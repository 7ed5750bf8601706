import Maildrop.Json.Printer
import Maildrop.Mailbox.Summary

/-!
# What commands print

Messages are printed for people or as JSON. A listing for people has one line for each
message, which starts with its id, and below it an indented line with its title if it
has one.
-/

namespace Maildrop

/-- A text as a line. -/
def line (s : String) : String := s ++ "\n"

namespace Mailbox

/-! ### For people -/

/-- An entry of a listing. -/
def Summary.text (style : TimeStyle) (s : Summary) : String :=
  line (s.id ++ "  " ++ style.brief s.receivedAt ++ "  " ++ s.sender ++ "  " ++ toString s.size ++
    " bytes") ++ if s.title.isEmpty then "" else line ("    " ++ s.title)

/-- **A listing.** -/
def listing (style : TimeStyle) (ss : List Summary) : String := String.join (ss.map (·.text style))

/-- **A message with its sender.** -/
def Detail.text (style : TimeStyle) (d : Detail) : String :=
  line ("Id:       " ++ d.message.id) ++
  line ("From:     " ++ d.sender.display) ++
  line ("Subject:  " ++ d.message.subjectPreview) ++
  line ("Received: " ++ style.full d.message.receivedAt) ++
  line ("Size:     " ++ toString d.message.size ++ " bytes") ++
  line "" ++
  line d.message.bodyPreview

/-! ### As JSON -/

/-- An entry of a listing as a JSON value. -/
def Summary.toJson (style : TimeStyle) (s : Summary) : Json.Value :=
  .object [("id", .string s.id), ("sender", .string s.sender),
    ("sender_email", .string s.senderEmail), ("subject", .string s.subject),
    ("snippet", .string s.snippet), ("title", .string s.title), ("slug", .string s.slug),
    ("size", .integer s.size), ("received_at", .string (style.stamp s.receivedAt))]

/-- A message without its octets as a JSON value. -/
def messageJson (style : TimeStyle) (m : Message) : Json.Value :=
  .object [("id", .string m.id), ("sender_id", .integer m.senderId),
    ("subject_preview", .string m.subjectPreview), ("body_preview", .string m.bodyPreview),
    ("size", .integer m.size), ("received_at", .string (style.stamp m.receivedAt))]

/-- An address as a JSON value. -/
def addressJson (a : Address) : Json.Value :=
  .object [("id", .integer a.id), ("email", .string a.email),
    ("name", (a.name.map Json.Value.string).getD .null)]

/-- A message with its sender as a JSON value. -/
def Detail.toJson (style : TimeStyle) (d : Detail) : Json.Value :=
  .object [("message", messageJson style d.message), ("sender", addressJson d.sender)]

end Mailbox

/-- A JSON value as lines. -/
def Json.Value.lines (v : Value) : String := line (String.ofList v.print)

end Maildrop
