import QueryConsole.Catalog.Messages
import QueryConsole.Json.Printer
/-!
# The English catalog

The messages that come with the console: one catalog, English, in a
directory of its own. `english` are its entries and `bundled` the
directory.
-/

namespace QueryConsole.Catalog

/-- The English messages. -/
def english : List (String × String) :=
  [ ("ui.title", "Data from Server"),
    ("ui.prompt", "Enter your SQL query here"),
    ("ui.error", "Error: \x7bmessage\x7d"),
    ("status.idle", "Ready"),
    ("status.loading", "Loading..."),
    ("status.success", "Done"),
    ("status.error", "Failed"),
    ("errors.transport", "Failed to reach the query endpoint: \x7bdetail\x7d"),
    ("errors.http_status", "Network response was not ok (status \x7bstatus_code\x7d)"),
    ("errors.parse", "Endpoint response is not valid JSON: \x7bdetail\x7d"),
    ("errors.unexpected", "Query submission failed unexpectedly: \x7bdetail\x7d") ]

/-- The English catalog. -/
def englishCatalog : Json :=
  .object (english.map fun e => (Text.ofString e.1, .string (Text.ofString e.2)))

/-- The directory of the catalogs that come with the console, among the
other directories of the console. -/
def bundled : Directory :=
  { location := ["querypad", "i18n", "locales"]
    folders := [["querypad", "domain"], ["querypad", "services"], ["querypad", "utils"]]
    files := [(["en.json"], Utf8.encode englishCatalog.pretty)] }

/-- The messages that come with the console, English by default. -/
def Messages.bundled : Messages :=
  Messages.new Catalog.bundled "en"

end QueryConsole.Catalog
