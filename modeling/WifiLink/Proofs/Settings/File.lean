import WifiLink.Proofs.Command.Steps
import WifiLink.Proofs.Text.Lines
import WifiLink.Proofs.Text.Utf8

/-!
# Settings files

A file that holds a text sets what the text sets. Its bytes are read as the text, and that every
kind of line end has become a line feed changes neither the lines nor their numbers.
-/

namespace WifiLink.Settings

variable {α : Type} [Scalar α]

/-- The lines are all that a text is read for. -/
theorem ofChars_unifyLineEnds (text : List Char) (initial : Settings α) :
    ofChars (Text.unifyLineEnds text) initial = ofChars text initial := by
  rw [ofChars, Text.lines_unifyLineEnds, ofChars]

private theorem ofBytes_utf8Bytes (text : String) :
    (ofBytes (Text.utf8Bytes text.toList) : Except (Fault α) (Settings α)) = ofText text := by
  rw [ofBytes, Text.decodeUtf8_utf8Bytes]
  exact ofChars_unifyLineEnds text.toList standard

open Command in
/-- A settings file that is there is read as its bytes say. -/
theorem run_settingsFor {options : Options} {place : Location} {session : Session}
    {content : Content} (given : options.config = some place)
    (read : session.storage.read place = .ok content) :
    (settingsFor options).run.run session =
      (calculate (ofBytes (bytesOf content))).run.run session := by
  rw [settingsFor, given]
  dsimp only
  rw [run_bind, run_readFile, read]
  rfl

open Command in
/-- The settings of a file are those of the text that it holds, or are refused with the same cause,
the same line and the same number of it. So it is for the bytes of the text, whatever line ends it
mixes, and for a command that names the file. -/
theorem ofBytes_toUTF8 (text : String) :
    (ofBytes (text.toUTF8.toList.map UInt8.toNat) : Except (Fault α) (Settings α)) =
      ofText text ∧
    Text.lines (Text.unifyLineEnds text.toList) = Text.lines text.toList ∧
    ∀ (options : Options) (place : Location) (session : Session) (content : Content),
      options.config = some place → session.storage.read place = .ok content →
        bytesOf content = bytesOf (.text text) →
          (settingsFor options).run.run session = (calculate (ofText text)).run.run session := by
  have bytes := Text.toUTF8_bytes text
  refine ⟨?_, ?_, ?_⟩
  · rw [bytes, ofBytes_utf8Bytes]
  · exact Text.lines_unifyLineEnds text.toList
  · intro options place session content given read holds
    have utf8 : bytesOf content = Text.utf8Bytes text.toList := holds.trans bytes
    rw [run_settingsFor given read, utf8, ofBytes_utf8Bytes]

end WifiLink.Settings
