-- The report on a pull request: all objections, then advice that is always the same.
import PinGate.Finding

namespace PinGate

open Text

namespace Report

/-- The heading. -/
def title : Text := "## 🔍 Version Pinning and Migration Validation".toList

/-- How to pin versions. -/
def pinningAdvice : List Text :=
  ["#### Version Pinning:",
   "- Use specific version tags (e.g., `node:20.5.0`)",
   "- Avoid generic tags like `latest`, `alpine`, or partial versions",
   "- Good examples:",
   "  - `FROM node:20.5.0-alpine3.18`",
   "  - `FROM python:3.11.5`",
   "  - `FROM ubuntu:22.04`"].map String.toList

/-- How to write migrations. -/
def migrationAdvice : List Text :=
  ["#### Database Migrations:",
   "- Always use `IF EXISTS` or `IF NOT EXISTS` clauses",
   "- Wrap changes in transaction blocks (BEGIN/END)",
   "- Include guards against duplicate operations",
   "- Example of good migration:",
   "```sql",
   "DO $$",
   "BEGIN",
   "    IF NOT EXISTS (SELECT 1 FROM information_schema.columns",
   "                   WHERE table_name = 'users' AND column_name = 'email')",
   "    THEN",
   "        ALTER TABLE users ADD COLUMN email VARCHAR(255);",
   "    END IF;",
   "END $$;",
   "```"].map String.toList

/-- The report on some objections, given by their texts. -/
def render (issues : List Text) : Text :=
  unlines ([title, [], ['\n', '\n'].intercalate issues, [], "### 📝 Recommendations:".toList] ++
    pinningAdvice ++ [[]] ++ migrationAdvice ++ [[]])

end Report

end PinGate
