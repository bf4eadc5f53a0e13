import SettingsForm.Main
import SettingsForm.Proofs.Session.Cancel
import SettingsForm.Proofs.Session.ControlIds
import SettingsForm.Proofs.Session.Fields
import SettingsForm.Proofs.Session.Unsaved
import SettingsForm.Proofs.Text.Percent
import SettingsForm.Proofs.Form.Update
import SettingsForm.Proofs.Markup.Content
import SettingsForm.Proofs.Session.Failure
import SettingsForm.Proofs.Snapshot
import SettingsForm.Proofs.Session.Unedited
import SettingsForm.Proofs.Form.Assign
import SettingsForm.Proofs.CommandLine.Assignment
import SettingsForm.Proofs.Markup.Tag
import SettingsForm.Proofs.Markup.Written
import SettingsForm.Proofs.Markup.Truncated
import SettingsForm.Proofs.Session.Truncated
import SettingsForm.Proofs.Catalog.Accounting
import SettingsForm.Proofs.Session.Loading
import SettingsForm.Proofs.Session.Sending
import SettingsForm.Proofs.Session.ReadOnly
import SettingsForm.Proofs.Preferences.Flags
import SettingsForm.Proofs.Session.Visibility
import SettingsForm.Proofs.Form.GroupRun
import SettingsForm.Proofs.Screen.Cells
import SettingsForm.Proofs.Screen.Choice
import SettingsForm.Proofs.Screen.Demand
import SettingsForm.Proofs.Screen.Question
import SettingsForm.Proofs.Editor
import SettingsForm.Proofs.Snapshot.Names
import SettingsForm.Proofs.Form.Entries
import SettingsForm.Proofs.Form.Values
import SettingsForm.Proofs.Session.Values
import SettingsForm.Proofs.Form.DropDown
import SettingsForm.Proofs.Session.Selection
import SettingsForm.Proofs.Screen.Outline
import SettingsForm.Proofs.Screen.Layers
import SettingsForm.Proofs.Form.Growth
import SettingsForm.Proofs.Form.Overflow
import SettingsForm.Proofs.Markup.OpenTags
